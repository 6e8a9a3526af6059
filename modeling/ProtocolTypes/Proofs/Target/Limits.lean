import ProtocolTypes.Proofs.Target.Gather

/-!
# ProtocolTypes.Proofs.Target.Limits

The limits that types set: primitives with the values they are limited to, which are leaves of
types. `Primitive.Carries` says which literals are values of a primitive; an integer is one of the
carrier of integers just where it has 32 bits (`carries_iff`).
-/

namespace ProtocolTypes
namespace Target

/-! ## Limits in types -/

/-- A primitive and the values it is limited to. -/
abbrev Limit := Primitive × List LiteralValue

/-- Limits are leaves. -/
def Leaf.limit : Leaf Limit where
  type c := .constrained c.1 c.2
  isLeaf _ := rfl

namespace TargetType

@[simp] theorem gather_limit_symbol (name : String) : (symbol name).gather .limit = ∅ := by
  rw [gather_of_isLeaf .limit rfl]
  exact Set.eq_empty_of_forall_notMem nofun

@[simp] theorem gather_limit_constrained (p : Primitive) (vs : List LiteralValue) :
    (constrained p vs).gather .limit = {(p, vs)} := by
  rw [gather_of_isLeaf .limit rfl]
  ext ⟨q, ws⟩
  simp [Leaf.limit]

end TargetType

/-! ## Values of primitives -/

/-- The literal is a value of the primitive. -/
def Primitive.Carries : Primitive → LiteralValue → Prop
  | .string, .text _ | .bool, .boolean _ => True
  | .int32, .integer i => ∃ x : Int32, x.toInt = i.toInt
  | _, _ => False

theorem exists_int32_iff {i : Int} :
    (∃ x : Int32, x.toInt = i) ↔ -2147483648 ≤ i ∧ i ≤ 2147483647 := by
  constructor
  · rintro ⟨x, rfl⟩
    exact ⟨x.le_toInt, Int.le_of_lt_add_one x.toInt_lt⟩
  · rintro ⟨hlo, hhi⟩
    exact ⟨.ofInt i, Int32.toInt_ofInt_of_le hlo (by omega)⟩

/-- Of the literals of a primitive only integers may be beyond it. -/
theorem carries_iff {v : LiteralValue} : v.primitive.Carries v ↔
    ∀ i, v = .integer i → -2147483648 ≤ i.toInt ∧ i.toInt ≤ 2147483647 := by
  cases v with
  | text | boolean => simp [LiteralValue.primitive, Primitive.Carries]
  | integer i => simp [LiteralValue.primitive, Primitive.Carries, exists_int32_iff]

end Target
end ProtocolTypes
