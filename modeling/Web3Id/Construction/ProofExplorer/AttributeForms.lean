/-
This file is the two forms of the proof explorer that prove bounds and sets.
-/

namespace Web3Id.ProofExplorer

/-- White space as JavaScript trims it. -/
def isWhiteSpace (c : Char) : Bool :=
  (9 ≤ c.toNat && c.toNat ≤ 13) || (0x2000 ≤ c.toNat && c.toNat ≤ 0x200A) ||
    [0x20, 0xA0, 0x1680, 0x2028, 0x2029, 0x202F, 0x205F, 0x3000, 0xFEFF].contains c.toNat

def trim (text : List Char) : List Char :=
  ((text.dropWhile isWhiteSpace).reverse.dropWhile isWhiteSpace).reverse

/-- The value of a digit in the radix. -/
def digitValue (radix : Nat) (c : Char) : Option Nat :=
  let value :=
    if '0' ≤ c ∧ c ≤ '9' then some (c.toNat - '0'.toNat)
    else if 'a' ≤ c ∧ c ≤ 'f' then some (c.toNat - 'a'.toNat + 10)
    else if 'A' ≤ c ∧ c ≤ 'F' then some (c.toNat - 'A'.toNat + 10)
    else none
  value.filter (· < radix)

/-- A number has at least one digit. -/
def digits (radix : Nat) (text : List Char) : Option Nat :=
  if text.isEmpty then none
  else text.foldlM (fun value c => (digitValue radix c).map (value * radix + ·)) 0

/-- An empty text is zero, and only a decimal number has a sign. -/
def bigInt (text : String) : Option Int :=
  match trim text.toList with
  | [] => some 0
  | '+' :: number => (digits 10 number).map Int.ofNat
  | '-' :: number => (digits 10 number).map fun value => -Int.ofNat value
  | '0' :: 'x' :: number => (digits 16 number).map Int.ofNat
  | '0' :: 'X' :: number => (digits 16 number).map Int.ofNat
  | '0' :: 'o' :: number => (digits 8 number).map Int.ofNat
  | '0' :: 'O' :: number => (digits 8 number).map Int.ofNat
  | '0' :: 'b' :: number => (digits 2 number).map Int.ofNat
  | '0' :: 'B' :: number => (digits 2 number).map Int.ofNat
  | number => (digits 10 number).map Int.ofNat

example : [bigInt " -12 ", bigInt "0x1F", bigInt "", bigInt "-", bigInt "1.5"] =
    [some (-12), some 31, some 0, none, none] := by decide

/-- The options of the selection show the title of an attribute and carry its tag as the label. -/
structure AttributeOption where
  value : String
  label : String
  type : Option String
  deriving DecidableEq, Repr

inductive AttributeType where
  | string (text : String)
  | bigint (value : Int)
  | timestamp (timestamp : String)
  deriving DecidableEq, Repr

inductive AtomicStatement where
  | attributeInRange (attributeTag : String) (lower upper : AttributeType)
  | attributeInSet (attributeTag : String) (set : List AttributeType)
  | attributeNotInSet (attributeTag : String) (set : List AttributeType)
  deriving DecidableEq, Repr

/-- The conversion to a big integer may throw. -/
def convert (type : Option String) (text : String) : Option AttributeType :=
  if type = some "number" ∨ type = some "integer" then (bigInt text).map .bigint
  else if type = some "date-time" then some (.timestamp text)
  else some (.string text)

/-- Each text of the form is kept with a type. -/
structure AttributeInRange where
  lower : String × Option String
  upper : String × Option String
  selected : String × Option String
  deriving DecidableEq, Repr

namespace AttributeInRange

def mount (first : AttributeOption) : AttributeInRange :=
  ⟨("", none), ("", none), (first.value, some first.label)⟩

def handleChange (form : AttributeInRange) (option : AttributeOption) : AttributeInRange :=
  { form with selected := (option.label, option.type) }

def onLowerChange (form : AttributeInRange) (value : String) : AttributeInRange :=
  { form with lower := (value, form.selected.2) }

def onUpperChange (form : AttributeInRange) (value : String) : AttributeInRange :=
  { form with upper := (value, form.selected.2) }

def onClickAdd (form : AttributeInRange) : Option AtomicStatement := do
  let lower ← convert form.lower.2 form.lower.1
  let upper ← convert form.upper.2 form.upper.1
  return .attributeInRange form.selected.1 lower upper

end AttributeInRange

structure AttributeInSet where
  set : String
  selected : String × Option String
  deriving DecidableEq, Repr

namespace AttributeInSet

def mount (first : AttributeOption) : AttributeInSet := ⟨"", (first.value, first.type)⟩

def handleChange (form : AttributeInSet) (option : AttributeOption) : AttributeInSet :=
  { form with selected := (option.label, option.type) }

def onSetChange (form : AttributeInSet) (value : String) : AttributeInSet :=
  { form with set := value }

/-- The elements of a set are separated by commas. -/
def elements (set : String) : List String :=
  (set.toList.splitOn ',').map fun element => String.ofList (trim element)

/-- The set is converted whenever the form is rendered. -/
def proofSet (form : AttributeInSet) : Option (List AttributeType) :=
  (elements form.set).mapM (convert form.selected.2)

def onClickAdd (member : Bool) (form : AttributeInSet) : Option AtomicStatement :=
  form.proofSet.map fun set =>
    if member then .attributeInSet form.selected.1 set
    else .attributeNotInSet form.selected.1 set

end AttributeInSet

end Web3Id.ProofExplorer
