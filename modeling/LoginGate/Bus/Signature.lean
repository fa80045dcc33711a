namespace LoginGate

/-!
# Signatures

A signature names the types of values that stand one behind the other. A basic
type and a variant, which brings its own signature, take one character. The
type of an array is an a in front of the type of its elements; the members of a
record stand in parentheses, and the key and the value of an entry in braces.
-/

/-- The type of a value on the wire. -/
inductive ValueType where
  /-- A number of so many bytes, of which only the length matters. -/
  | number (width : Nat)
  | word
  | truth
  /-- A place in the list of descriptors that come with a message. -/
  | descriptor
  | text
  | path
  | signature
  | variant
  | array (element : ValueType)
  | record (members : List ValueType)
  | entry (key value : ValueType)
  /-- A character that stands for no type, where the key of an entry ought to be. -/
  | unknown (code : Char)
  deriving Repr

/-- Records and entries stand at multiples of so many bytes. -/
def recordAlignment : Nat :=
  8

namespace ValueType

/-- The type that takes one character. -/
def ofCharacter? : Char → Option ValueType
  | 'y' =>
      some (.number 1)
  | 'n' =>
      some (.number 2)
  | 'q' =>
      some (.number 2)
  | 'i' =>
      some (.number 4)
  | 'x' =>
      some (.number 8)
  | 't' =>
      some (.number 8)
  | 'd' =>
      some (.number 8)
  | 'u' =>
      some .word
  | 'b' =>
      some .truth
  | 'h' =>
      some .descriptor
  | 's' =>
      some .text
  | 'o' =>
      some .path
  | 'g' =>
      some .signature
  | 'v' =>
      some .variant
  | _ =>
      none

/-- Values of a type stand at multiples of so many bytes. -/
def alignment : ValueType → Nat
  | .number width =>
      width
  | .word | .truth | .descriptor | .text | .path | .array _ =>
      4
  | .record _ | .entry .. =>
      recordAlignment
  | .signature | .variant | .unknown _ =>
      1

end ValueType

/-- What is wrong with a signature. -/
inductive SignatureFault where
  /-- So many characters are left, where a container takes so many at least. -/
  | tooShort (left least : Nat)
  /-- The character starts no type. -/
  | unknown (code : Char)
  /-- The character stands where a container ought to be closed. -/
  | unclosed (code closing : Char)
  deriving Repr, DecidableEq

/-- The text of a fault. -/
def SignatureFault.message : SignatureFault → String
  | .tooShort left least =>
      "invalid length " ++ Nat.repr left ++ ", expected >= " ++ Nat.repr least ++ " characters"
  | .unknown code =>
      "invalid value: character `" ++ String.singleton code ++
        "`, expected a valid signature character"
  | .unclosed code closing =>
      "invalid value: character `" ++ String.singleton code ++ "`, expected " ++
        String.singleton closing

/-- A container whose type is not complete yet. -/
inductive OpenType where
  | array
  /-- A record with the members so far, the last one first. -/
  | record (members : List ValueType)
  /-- An entry in front of its key. -/
  | bareEntry
  /-- An entry behind its key. -/
  | entry (key : ValueType)
  /-- An entry behind its value, which has only to be closed. -/
  | fullEntry (key value : ValueType)
  deriving Repr

/-- The character that closes a container. -/
def OpenType.closing : OpenType → Char
  | .array | .record _ =>
      ')'
  | .bareEntry | .entry _ | .fullEntry .. =>
      '}'

/--
Types that are complete, the last one first, and the containers that are still
open, the innermost one first.
-/
structure TypeStack where
  complete : List ValueType := []
  pending : List OpenType := []
  deriving Repr

namespace TypeStack

/-- Give a type to the innermost open container; an array is complete with it. -/
def put (complete : List ValueType) : ValueType → List OpenType → TypeStack
  | type, [] =>
      ⟨type :: complete, []⟩
  | type, .array :: outer =>
      put complete (.array type) outer
  | type, .record members :: outer =>
      ⟨complete, .record (type :: members) :: outer⟩
  | type, .entry key :: outer =>
      ⟨complete, .fullEntry key type :: outer⟩
  | _, .bareEntry :: outer =>
      ⟨complete, .bareEntry :: outer⟩
  | _, .fullEntry key value :: outer =>
      ⟨complete, .fullEntry key value :: outer⟩

/-- The stack behind a character that starts a type. -/
def start (stack : TypeStack) (code : Char) (left : Nat) : Except SignatureFault TypeStack :=
  match ValueType.ofCharacter? code with
  | some type =>
      .ok (put stack.complete type stack.pending)
  | none =>
      if code = 'a' then
        if left < 2 then .error (.tooShort left 2)
        else .ok { stack with pending := .array :: stack.pending }
      else if code = '(' then
        if left < 3 then .error (.tooShort left 3)
        else .ok { stack with pending := .record [] :: stack.pending }
      else if code = '{' then
        if left < 4 then .error (.tooShort left 4)
        else .ok { stack with pending := .bareEntry :: stack.pending }
      else
        .error (.unknown code)

/--
The stack behind a character, where so many characters are left with it. The
key of an entry is looked at when a value of the type is read.
-/
def next (stack : TypeStack) (code : Char) (left : Nat) : Except SignatureFault TypeStack :=
  match stack.pending with
  | .bareEntry :: outer =>
      let key := (ValueType.ofCharacter? code).getD (.unknown code)
      .ok { stack with pending := .entry key :: outer }
  | .fullEntry key value :: outer =>
      if code = '}' then
        .ok (put stack.complete (.entry key value) outer)
      else
        .error (.unclosed code '}')
  | .record (last :: members) :: outer =>
      if code = ')' then
        .ok (put stack.complete (.record (last :: members).reverse) outer)
      else
        stack.start code left
  | _ =>
      stack.start code left

end TypeStack

/-- The types in a signature, where `previous` stands in front of its rest. -/
def typesFrom :
    (previous : Char) → TypeStack → List Char → Except SignatureFault (List ValueType)
  | previous, stack, [] =>
      match stack.pending with
      | [] =>
          .ok stack.complete.reverse
      | innermost :: _ =>
          .error (.unclosed previous innermost.closing)
  | _, stack, code :: rest => do
      typesFrom code (← stack.next code (rest.length + 1)) rest

/--
The types in a signature. It is read byte by byte, each as the character of the
same number.
-/
def signatureTypes (found : String) : Except SignatureFault (List ValueType) :=
  let codes := found.toUTF8.toList.map fun byte => Char.ofNat byte.toNat
  typesFrom '\x00' {} codes

end LoginGate
