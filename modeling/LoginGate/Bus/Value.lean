import LoginGate.Bus.Reading

namespace LoginGate

/-!
# Values of any type

A variant is a signature with a value of its first type behind it. Arrays say
how many bytes their elements take, without the gap in front of the first of
them. Containers stand in each other only so often.
-/

/-- The value of a variant, as far as a header looks at it. -/
inductive WireValue where
  | text (found : String)
  | path (found : String)
  | signature (found : String)
  | word (found : Nat)
  /-- A value of a type that no field of a header has. -/
  | other
  deriving Repr, DecidableEq

/-- The most records that stand in each other. -/
def mostRecords : Nat :=
  32

/-- The most arrays that stand in each other. -/
def mostArrays : Nat :=
  32

/-- The most records, arrays and variants that stand in each other. -/
def mostContainers : Nat :=
  64

/-- How many more records and arrays may be opened. -/
structure Nesting where
  records : Nat
  arrays : Nat
  deriving Repr, DecidableEq

namespace Reading

/-- The type that a variant announces; further types behind it have no values. -/
def variantType : Reading ValueType := do
  let found ← fromHere signature
  match signatureTypes found with
  | .ok (first :: _) =>
      return first
  | _ =>
      throw (.signature (.tooShort 0 1))

/-- A value of a type, where so many more containers may be opened. -/
def value (containers : Nat) (nesting : Nesting) (type : ValueType) : Reading WireValue :=
  match type with
  | .number width => do
      gap width
      let _ ← bytes width
      return .other
  | .word => do
      return .word (← word)
  | .truth => do
      let number ← word
      if 1 < number then
        throw (.truth number)
      else
        return .other
  | .descriptor => do
      let _ ← word
      throw .descriptor
  | .text => do
      return .text (← text)
  | .path => do
      let path ← text
      match objectPathFault? path with
      | some fault =>
          throw (.path fault)
      | none =>
          return .path path
  | .signature => do
      return .signature (← signature)
  | .variant => do
      let inner ← variantType
      match containers with
      | 0 =>
          throw (.nesting .all)
      | containers + 1 =>
          let _ ← fromHere (value containers nesting inner)
          return .other
  | .array element => do
      gap wordLength
      match nesting.arrays, containers with
      | 0, _ =>
          throw (.nesting .arrays)
      | _, 0 =>
          throw (.nesting .all)
      | arrays + 1, containers + 1 =>
          let length ← word
          gap element.alignment
          let start := (← get).position
          let member := fun type =>
            within start length (value containers { nesting with arrays := arrays } type)
          let step : Reading Unit :=
            match element with
            | .entry key value => do
                gap recordAlignment
                let _ ← member key
                let _ ← member value
            | element => do
                let _ ← member element
          let _ ← elements step (start + length) length
          return .other
  | .record members => do
      gap recordAlignment
      match nesting.records, containers with
      | 0, _ =>
          throw (.nesting .records)
      | _, 0 =>
          throw (.nesting .all)
      | records + 1, containers + 1 =>
          members.forM fun member => do
            let _ ← value containers { nesting with records := records } member
          return .other
  | .entry .. =>
      throw (.signature (.unknown '{'))
  | .unknown code =>
      throw (.signature (.unknown code))

end Reading

end LoginGate
