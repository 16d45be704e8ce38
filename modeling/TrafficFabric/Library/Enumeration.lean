import Mathlib.Data.List.Nodup
import Mathlib.Data.UInt

/-
  Enumerations with consecutive numeric values from zero,
  as the source's `enum class` types are: the numeric value
  of a constructor is its position in the list of values.
-/

/-
  A finite type whose values are listed in numeric order,
  few enough for a sixteen-bit code.
-/
class Enumeration (E : Type) where
  listed : List E
  nodup : listed.Nodup := by decide
  complete : ∀ value : E, value ∈ listed := by
    intro value
    cases value <;> decide
  small : listed.length ≤ 65536 := by decide

namespace Enumeration

variable {E : Type} [DecidableEq E] [Enumeration E]

def code (value : E) : UInt16 :=
  UInt16.ofNat (listed.idxOf value)

/- The constructor of a numeric value, when it has one. -/
def ofCode? (raw : UInt16) : Option E :=
  listed[raw.toNat]?

theorem toNat_code (value : E) : (code value).toNat = listed.idxOf value := by
  have hIndex := List.idxOf_lt_length_of_mem (complete value)
  have hSmall : (listed : List E).length ≤ 65536 := small
  unfold code
  apply Nat.mod_eq_of_lt
  omega

/- Reading a written numeric value returns its constructor. -/
theorem ofCode?_code (value : E) : ofCode? (code value) = some value := by
  have hIndex := List.idxOf_lt_length_of_mem (complete value)
  unfold ofCode?
  rw [toNat_code, List.getElem?_eq_getElem hIndex, List.getElem_idxOf hIndex]

theorem code_injective : Function.Injective (code : E → UInt16) := by
  intro a b hSame
  have hRead := congrArg (ofCode? : UInt16 → Option E) hSame
  rw [ofCode?_code, ofCode?_code] at hRead
  exact Option.some.inj hRead

end Enumeration
