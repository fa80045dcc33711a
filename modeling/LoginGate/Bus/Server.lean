import LoginGate.Bus.Body

namespace LoginGate

/-!
# The bus at the other end of a connection

Nothing is assumed about the bus: it may refuse a connection, close one at any
point and answer anything.
-/

/-- What comes back on a connection. -/
inductive BusAnswer where
  /-- The connection was closed instead. -/
  | closed
  | methodReturn (body : MessageBody)
  | errorReply (name : String) (body : MessageBody)
  deriving Repr, DecidableEq

/-- What comes back while a client proves who it is. -/
inductive HandshakeAnswer where
  /-- The connection was closed instead. -/
  | closed
  /-- Lines, each with its end. -/
  | lines (text : String)
  deriving Repr, DecidableEq

/-- A bus, over a world `σ`; connections are told apart by their numbers. -/
structure BusServer (σ : Type) where
  /-- Begin a connection; the answer tells whether anybody listens. -/
  accept : (connection : Nat) → σ → Bool × σ
  /-- Answer an attempt of a client to prove who it is. -/
  authenticate : (connection : Nat) → σ → HandshakeAnswer × σ
  /-- Answer a client that wants to pass descriptors. -/
  negotiate : (connection : Nat) → σ → HandshakeAnswer × σ
  /-- Answer a client's greeting. -/
  hello : (connection : Nat) → σ → BusAnswer × σ
  /-- Take a message and answer it, unless the connection was closed before. -/
  exchange : (connection : Nat) → BusMessage → σ → Option BusAnswer × σ
  /-- Take a message that wants no answer, unless the connection was closed before. -/
  deliver : (connection : Nat) → BusMessage → σ → Bool × σ
  /-- End a connection from the client's side. -/
  release : (connection : Nat) → σ → σ

/-- A bus that lives in one part of a larger world. -/
def BusServer.within {σ τ : Type} (part : τ → σ) (replace : σ → τ → τ)
    (server : BusServer σ) : BusServer τ where
  accept connection :=
    Interaction.askPart part replace (server.accept connection)
  authenticate connection :=
    Interaction.askPart part replace (server.authenticate connection)
  negotiate connection :=
    Interaction.askPart part replace (server.negotiate connection)
  hello connection :=
    Interaction.askPart part replace (server.hello connection)
  exchange connection message :=
    Interaction.askPart part replace (server.exchange connection message)
  deliver connection message :=
    Interaction.askPart part replace (server.deliver connection message)
  release connection world :=
    replace (server.release connection (part world)) world

end LoginGate
