import RouterCall.Json.Numeral

/-!
# JSON values

`Json` is what a JSON text denotes: numbers are integers or doubles, and an object is the list of
its members. Two spellings of one value (escapes, blanks, the order of keys, a key written twice)
have already been settled when a `Json` exists; `Document` is the type that still shows them.

Two distinctions of the number type matter to every caller. An integer literal that fits 64 bits,
signed or not, is an integer, and any literal with a point or an exponent is a double: `1` and `1.0`
are different values. And an unsigned 64-bit read accepts integers from `0`, a signed one accepts
integers up to `2 ^ 63 - 1`; neither accepts a double.

## Main definitions

* `Json`, `Number`, `Json.Kind`
* `Number.ofNumeral?`: which number a literal is
* `Json.asNat?`, `Json.asInt64?`: the 64-bit reads
* `Json.same`: equality of the values denoted, which ignores the order of keys

## Main results

* `Json.asNat?_eq_some_iff`, `Json.asInt64?_eq_some_iff`: which integers each read accepts
-/

namespace RouterCall

-- powers are those of the numbers themselves, whatever other powers are in scope
attribute [local instance (high)] instPowNat

/-- A number: an integer, or a double. -/
inductive Number where
  | integer (value : Int)
  | double (value : Binary64)
deriving DecidableEq

namespace Number

/-- The integers that a literal can be: those of 64 bits, signed or unsigned. -/
def IsWord (n : Int) : Prop := -2 ^ (63 : Nat) ≤ n ∧ n < 2 ^ (64 : Nat)

instance (n : Int) : Decidable (IsWord n) := inferInstanceAs (Decidable (_ ∧ _))

/-- The number a literal is. An integer literal outside 64 bits is a double, and so is `-0`, which
is the negative zero; `none` means past the largest double. -/
def ofNumeral? (n : Numeral) : Option Number :=
  let value : Int := if n.negative then -n.digitValue else n.digitValue
  if n.isInteger ∧ IsWord value ∧ ¬ (n.negative ∧ n.digitValue = 0) then some (.integer value)
  else n.double?.map .double

/-- The literal a number is written as. -/
def numeral : Number → Numeral
  | .integer (.ofNat n) => ⟨false, Numeral.decimal n, [], none⟩
  | .integer (.negSucc n) => ⟨true, Numeral.decimal (n + 1), [], none⟩
  | .double x => x.numeral

/-- Equality as numbers within each sort; an integer never equals a double. -/
def same : Number → Number → Bool
  | .integer a, .integer b => a = b
  | .double a, .double b => a.sameValue b
  | _, _ => false

end Number

/-- A JSON value. -/
inductive Json where
  | null
  | bool (value : Bool)
  | number (value : Number)
  | string (value : String)
  | array (items : List Json)
  | object (members : List (String × Json))

namespace Json

instance : Inhabited Json := ⟨.null⟩

/-- The integer `n` as a value. -/
def ofInt (n : Int) : Json := .number (.integer n)

/-! ### Kinds -/

/-- The six kinds of value that messages name. -/
inductive Kind where
  | null
  | boolean
  | number
  | string
  | array
  | object
deriving DecidableEq

/-- The word for a kind in messages. -/
def Kind.word : Kind → String
  | .null => "null"
  | .boolean => "boolean"
  | .number => "number"
  | .string => "string"
  | .array => "array"
  | .object => "object"

/-- The kind of a value. -/
def kind : Json → Kind
  | .null => .null
  | .bool _ => .boolean
  | .number _ => .number
  | .string _ => .string
  | .array _ => .array
  | .object _ => .object

/-! ### Reads -/

/-- The text of a string. -/
def asString? : Json → Option String
  | .string s => some s
  | _ => none

/-- The truth value of a boolean. -/
def asBool? : Json → Option Bool
  | .bool b => some b
  | _ => none

/-- The items of an array. -/
def asArray? : Json → Option (List Json)
  | .array items => some items
  | _ => none

/-- The members of an object. -/
def asObject? : Json → Option (List (String × Json))
  | .object members => some members
  | _ => none

/-- The unsigned 64-bit read. -/
def asNat? : Json → Option Nat
  | .number (.integer (.ofNat n)) => if n < 2 ^ (64 : Nat) then some n else none
  | _ => none

/-- The signed 64-bit read. -/
def asInt64? : Json → Option Int64
  | .number (.integer n) =>
    if -2 ^ (63 : Nat) ≤ n ∧ n < 2 ^ (63 : Nat) then some (Int64.ofInt n) else none
  | _ => none

/-- The value of a member of an object; `none` for an absent key and for a value of another kind. -/
def member? (value : Json) (key : String) : Option Json :=
  value.asObject?.bind (·.lookup key)

theorem asString?_eq_some_iff {value : Json} {text : String} :
    value.asString? = some text ↔ value = .string text := by
  cases value <;> simp [asString?]

theorem asBool?_eq_some_iff {value : Json} {flag : Bool} :
    value.asBool? = some flag ↔ value = .bool flag := by
  cases value <;> simp [asBool?]

theorem asArray?_eq_some_iff {value : Json} {items : List Json} :
    value.asArray? = some items ↔ value = .array items := by
  cases value <;> simp [asArray?]

theorem asObject?_eq_some_iff {value : Json} {members : List (String × Json)} :
    value.asObject? = some members ↔ value = .object members := by
  cases value <;> simp [asObject?]

theorem asNat?_eq_some_iff {value : Json} {n : Nat} :
    value.asNat? = some n ↔ value = .ofInt n ∧ n < 2 ^ (64 : Nat) := by
  constructor
  · intro h
    rw [asNat?.eq_def] at h
    split at h
    · next m =>
      split at h
      · next fits =>
        cases h
        exact ⟨rfl, fits⟩
      · cases h
    · cases h
  · rintro ⟨rfl, fits⟩
    show (if n < 2 ^ (64 : Nat) then some n else none) = some n
    rw [if_pos fits]

theorem asInt64?_eq_some_iff {value : Json} {n : Int64} :
    value.asInt64? = some n ↔ value = .ofInt n.toInt := by
  constructor
  · intro h
    rw [asInt64?.eq_def] at h
    split at h
    · next m =>
      split at h
      · next fits =>
        cases h
        rw [Int64.toInt_ofInt_of_le fits.1 fits.2]
        rfl
      · cases h
    · cases h
  · rintro rfl
    show (if -2 ^ (63 : Nat) ≤ n.toInt ∧ n.toInt < 2 ^ (63 : Nat) then
      some (Int64.ofInt n.toInt) else none) = some n
    rw [if_pos ⟨n.le_toInt, n.toInt_lt⟩, Int64.ofInt_toInt]

/-! ### Equality of the values denoted -/

mutual

/-- Equality of the values denoted: numbers by `Number.same`, objects without regard to the order of
their keys. -/
def same : Json → Json → Bool
  | .null, .null => true
  | .bool a, .bool b => a == b
  | .number a, .number b => a.same b
  | .string a, .string b => a == b
  | .array as, .array bs => sameItems as bs
  | .object as, .object bs => as.length == bs.length && sameMembers as bs
  | _, _ => false

/-- Items agree one by one. -/
def sameItems : List Json → List Json → Bool
  | [], [] => true
  | a :: as, b :: bs => a.same b && sameItems as bs
  | _, _ => false

/-- Every member of the first list is found in the second with an equal value. -/
def sameMembers : List (String × Json) → List (String × Json) → Bool
  | [], _ => true
  | (key, a) :: as, bs => (match bs.lookup key with
    | some b => a.same b
    | none => false) && sameMembers as bs

end

end Json

/-- Membership of a value in a closed set, by equality of the values denoted. -/
def Json.isOneOf (set : List Json) (value : Json) : Bool := set.any (value.same ·)

end RouterCall
