/-!
# Integers of fixed width

Eight kinds of integer, each a range of mathematical integers. An `Integer`
carries its kind and a value inside the range of that kind, so no operation on
it can wrap: an operation either stays inside the range or says that it does
not.
-/

namespace RowBinding

/-- The kinds of integer, by width and by whether they have a sign. -/
inductive IntegerKind
  | byte
  | sbyte
  | int16
  | uint16
  | int32
  | uint32
  | int64
  | uint64
  deriving DecidableEq

namespace IntegerKind

/-- Every kind of integer, in the order of width. -/
def all : List IntegerKind :=
  [.byte, .sbyte, .int16, .uint16, .int32, .uint32, .int64, .uint64]

/-- The least integer of a kind. -/
def least : IntegerKind → Int
  | .byte => 0
  | .sbyte => -128
  | .int16 => -32768
  | .uint16 => 0
  | .int32 => -2147483648
  | .uint32 => 0
  | .int64 => -9223372036854775808
  | .uint64 => 0

/-- The greatest integer of a kind. -/
def greatest : IntegerKind → Int
  | .byte => 255
  | .sbyte => 127
  | .int16 => 32767
  | .uint16 => 65535
  | .int32 => 2147483647
  | .uint32 => 4294967295
  | .int64 => 9223372036854775807
  | .uint64 => 18446744073709551615

/-- An integer is of a kind when it lies in the range of the kind. -/
def Contains (kind : IntegerKind) (value : Int) : Prop :=
  kind.least ≤ value ∧ value ≤ kind.greatest

instance (kind : IntegerKind) (value : Int) : Decidable (kind.Contains value) :=
  inferInstanceAs (Decidable (_ ∧ _))

theorem contains_zero (kind : IntegerKind) : kind.Contains 0 := by
  cases kind <;> decide

/-- No kind reaches beyond 64 bits. -/
theorem Contains.natAbs_le
    {kind : IntegerKind}
    {value : Int}
    (inRange : kind.Contains value) :
    value.natAbs ≤ 18446744073709551615 := by
  obtain ⟨isLeast, isGreatest⟩ := inRange
  cases kind <;> simp only [least, greatest] at isLeast isGreatest <;> omega

end IntegerKind

/-- An integer inside the range of its kind. -/
structure Integer where
  kind : IntegerKind
  value : Int
  inRange : kind.Contains value
  deriving DecidableEq

namespace Integer

/-- The integer of a kind with a given value, if the value is in range. -/
def ofInt? (kind : IntegerKind) (value : Int) : Option Integer :=
  if inRange : kind.Contains value then some ⟨kind, value, inRange⟩ else none

/-- Zero of a kind. -/
def zero (kind : IntegerKind) : Integer :=
  ⟨kind, 0, kind.contains_zero⟩

/-- Every bit of the integer flipped. -/
def complement (integer : Integer) : Integer where
  kind := integer.kind
  value := integer.kind.least + integer.kind.greatest - integer.value
  inRange := by
    have inRange := integer.inRange
    unfold IntegerKind.Contains at *
    omega

@[simp] theorem complement_complement (integer : Integer) :
    integer.complement.complement = integer := by
  cases integer
  simp only [complement, Integer.mk.injEq, true_and]
  omega

theorem ofInt?_eq_some_iff
    {kind : IntegerKind}
    {value : Int}
    {integer : Integer} :
    ofInt? kind value = some integer ↔
      integer.kind = kind ∧ integer.value = value := by
  unfold ofInt?
  split
  · constructor
    · rintro ⟨⟩
      exact ⟨rfl, rfl⟩
    · rintro ⟨rfl, rfl⟩
      rfl
  · next outside =>
      constructor
      · rintro ⟨⟩
      · rintro ⟨rfl, rfl⟩
        exact absurd integer.inRange outside

@[simp] theorem ofInt?_kind_value (integer : Integer) :
    ofInt? integer.kind integer.value = some integer :=
  ofInt?_eq_some_iff.mpr ⟨rfl, rfl⟩

end Integer
end RowBinding
