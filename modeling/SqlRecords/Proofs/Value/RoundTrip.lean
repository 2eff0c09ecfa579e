import SqlRecords.Pool.Scripted
import SqlRecords.Proofs.Row.RepeatedNames

/-! JSON values as values of columns and back. A whole number above the signed ones comes back as a
float. -/
namespace SqlRecords

namespace Decimal.Format

theorem nearestEven_le (num den : Nat) : nearestEven num den ≤ num / den + 1 := by
  have hparity : num / den % 2 < 2 := Nat.mod_lt _ (by decide)
  simp only [nearestEven]
  split
  · omega
  · split <;> omega

section
variable {n : Nat} (hlow : Nat.pow 2 63 ≤ n) (hhigh : n < Nat.pow 2 64)
include hlow hhigh

/-- A whole number of 64 bits with the highest one set loses eleven bits. -/
theorem placeOf_of_highest : binary64.placeOf n 1 = 11 := by
  have hne : n ≠ 0 := by
    rintro rfl
    exact absurd hlow (by decide)
  have hlog : n.log2 = 63 := (Nat.log2_eq_iff hne).mpr ⟨hlow, hhigh⟩
  have hone : Nat.log2 1 = 0 := by decide
  have hplace : ¬ n * Nat.pow 2 0 < 1 * Nat.pow 2 11 * Nat.pow 2 52 := by
    have hpow : Nat.pow 2 63 = 1 * Nat.pow 2 11 * Nat.pow 2 52 := by decide
    have hzero : n * Nat.pow 2 0 = n := Nat.mul_one n
    omega
  unfold placeOf
  rw [hlog, hone]
  have hguess : ((63 : Nat) : Int) - ((0 : Nat) : Int) - (binary64.fractionBits : Nat) = 11 := by
    decide
  rw [hguess]
  show max binary64.leastExponent (if n * Nat.pow 2 0 < 1 * Nat.pow 2 11 * Nat.pow 2 52
    then 11 - 1 else 11) = 11
  rw [if_neg hplace]
  decide

theorem round_lt_infinity : binary64.round n 1 < binary64.infinity := by
  have hne : n ≠ 0 := by
    rintro rfl
    exact absurd hlow (by decide)
  have hmantissa : nearestEven (n * 1) (1 * Nat.pow 2 11) ≤ n / Nat.pow 2 11 + 1 := by
    have hle := nearestEven_le (n * 1) (1 * Nat.pow 2 11)
    rwa [Nat.mul_one, Nat.one_mul] at hle ⊢
  have hexponent : (11 - binary64.leastExponent).toNat = 1085 := by decide
  have hmagnitude : binary64.round n 1 = min binary64.infinity
      (1085 * Nat.pow 2 52 + nearestEven (n * 1) (1 * Nat.pow 2 11)) := by
    simp only [round, if_neg hne, placeOf_of_highest hlow hhigh, hexponent]
    rfl
  have hquotient : n / Nat.pow 2 11 < Nat.pow 2 53 := by
    apply Nat.div_lt_of_lt_mul
    exact hhigh
  have hinfinity : binary64.infinity = 2047 * Nat.pow 2 52 := by decide
  have hpow : Nat.pow 2 53 = 2 * Nat.pow 2 52 := by decide
  have hpositive : 0 < Nat.pow 2 52 := by decide
  -- A mantissa that rounds up carries into the exponent, and that is still below the top one.
  rw [hmagnitude]
  omega
end

/-- Bits below those of infinity stand for a finite float without a sign. -/
theorem read_of_lt_infinity {bits : Nat} (h : bits < binary64.infinity) :
    ∃ mantissa exponent, binary64.read bits = .finite false mantissa exponent := by
  have hsign : binary64.infinity < binary64.signBit := by decide
  have hpositive : ¬ binary64.signBit ≤ bits := by omega
  have hmagnitude : bits % binary64.signBit = bits := Nat.mod_eq_of_lt (by omega)
  have hnumber : ¬ binary64.infinity < bits := by omega
  have hbounded : ¬ bits = binary64.infinity := by omega
  simp only [read, hmagnitude, hnumber, hbounded, hpositive, if_false, decide_false]
  split
  · exact ⟨_, _, rfl⟩
  · exact ⟨_, _, rfl⟩

end Decimal.Format

open Decimal

namespace Double

theorem toNat_ofBits {n : Nat} (h : n < UInt64.size) : (ofBits n).bits.toNat = n :=
  UInt64.toNat_ofNat_of_lt h

theorem isFinite_ofBits {n : Nat} (h : n < binary64.infinity) : (ofBits n).isFinite = true := by
  have hword : binary64.infinity < UInt64.size := by decide
  have hbits := toNat_ofBits (Nat.lt_trans h hword)
  obtain ⟨mantissa, exponent, hread⟩ := Format.read_of_lt_infinity h
  rw [isFinite, reading, hbits, hread]

/-- The whole numbers of 64 bits that are above the signed ones have a nearest float. -/
theorem isFinite_ofInt {n : Int} (hlow : Json.topInt64 < n) (hhigh : n ≤ Json.topUInt64) :
    (ofInt n).isFinite = true := by
  have hsigned : Json.topInt64 + 1 = (Nat.pow 2 63 : Nat) := by decide
  have hunsigned : Json.topUInt64 + 1 = Nat.pow 2 64 := by decide
  have hpositive : 0 < Json.topInt64 := by decide
  have hsign : decide (n < 0) = false := decide_eq_false (by omega)
  have hround := Format.round_lt_infinity (n := n.natAbs) (by omega) (by omega)
  rw [ofInt, ofQuotient, hsign, Format.withSign, if_neg Bool.false_ne_true]
  exact isFinite_ofBits hround

end Double

/-- Whether a value is one of JSON: a whole number is of 64 bits and a float is finite. What lists
and objects hold does not matter here. -/
def Json.isProper : Json → Bool
  | .int n => isWord n
  | .double x => x.isFinite
  | _ => true

/-- Whether a value is no whole number above the signed ones. -/
def Json.fitsInt64 : Json → Bool
  | .int n => decide (n ≤ topInt64)
  | _ => true

namespace Value

/-- What a column makes of a JSON value. -/
theorem toJson_ofJson {j : Json} (h : j.isProper = true) :
    (ofJson j).toJson = match j with
      | .int n => if n ≤ Json.topInt64 then .int n else .double (.ofInt n)
      | j => j := by
  cases j with
  | int n =>
    obtain ⟨hleast, htop⟩ : Json.leastInt64 ≤ n ∧ n ≤ Json.topUInt64 := by
      simpa [Json.isProper, Json.isWord] using h
    by_cases hfits : n ≤ Json.topInt64
    · have hword : (Int64.ofInt n).toInt = n := by
        refine Int64.toInt_ofInt_of_le hleast ?_
        exact Int.lt_of_le_of_lt hfits (by decide)
      simp only [ofJson, hleast, hfits, and_self, if_true, toJson, hword]
    · have hfinite := Double.isFinite_ofInt (Int.not_le.mp hfits) htop
      simp only [ofJson, hfits, and_false, if_false, toJson, ofFloat, hfinite, if_true]
  | double x =>
    have hfinite : x.isFinite = true := h
    simp only [ofJson, toJson, ofFloat, hfinite, if_true]
  | null | bool | text | list | object => rfl

/-- A JSON value comes back from a column just if it fits. -/
theorem toJson_ofJson_iff {j : Json} (h : j.isProper = true) :
    (ofJson j).toJson = j ↔ j.fitsInt64 = true := by
  rw [toJson_ofJson h]
  cases j with
  | int n => by_cases hfits : n ≤ Json.topInt64 <;> simp [Json.fitsInt64, hfits]
  | null | bool | double | text | list | object => simp [Json.fitsInt64]

end Value

namespace Fields
variable {α : Type}

/-- Fields that have each name once are as they are. -/
theorem ofList_of_nodup {pairs : Fields α} (h : pairs.keys.Nodup) : ofList pairs = pairs := by
  have happend : ∀ fields more : Fields α, (fields ++ more).keys.Nodup →
      fields.insertAll more = fields ++ more := by
    intro fields more hnodup
    induction more generalizing fields with
    | nil => exact (List.append_nil fields).symm
    | cons p rest ih =>
      obtain ⟨n, v⟩ := p
      have hkeys : keys (fields ++ (n, v) :: rest) = fields.keys ++ n :: keys rest := by
        simp [keys]
      have hnew : n ∉ fields.keys := by
        rw [hkeys] at hnodup
        exact fun hmem => (List.nodup_append.mp hnodup).2.2 n hmem n List.mem_cons_self rfl
      have hstep : insertAll fields ((n, v) :: rest) = insertAll (fields.insert n v) rest := rfl
      rw [hstep, insert_of_not_mem hnew, ih _ (by simpa using hnodup)]
      simp
  exact happend [] pairs h

end Fields

namespace Record

/-- What a column makes of each value of a record. -/
def readBack (r : Record) : Record := r.mapValues fun j => (Value.ofJson j).toJson

/-- A record as JSON has it: each name stands once, and all values are JSON's. -/
structure IsProper (r : Record) : Prop where
  names : r.keys.Nodup
  values : ∀ p ∈ r, p.2.isProper = true

theorem toRecord_ofRecord {r : Record} (h : r.keys.Nodup) :
    (Row.ofRecord r).toRecord = .ok r.readBack := by
  have hrow : Row.ofRecord r = Row.ofValues (r.mapValues Value.ofJson) := by
    simp [Row.ofRecord, Row.ofValues, Fields.mapValues]
  have hvalues : (r.mapValues Value.ofJson).mapValues Value.toJson = r.readBack := by
    simp [readBack, Fields.mapValues]
  have hkeys : r.readBack.keys = r.keys := by
    simp [readBack, Fields.mapValues, Fields.keys]
  rw [hrow, Row.toRecord_ofValues, hvalues, Fields.ofList_of_nodup (hkeys ▸ h)]

theorem mapM_toRecord {rows : List Record} (h : ∀ r ∈ rows, r.IsProper) :
    (rows.map Row.ofRecord).mapM Row.toRecord = .ok (rows.map readBack) := by
  induction rows with
  | nil => rfl
  | cons r rest ih =>
    obtain ⟨hr, hrest⟩ := List.forall_mem_cons.mp h
    rw [List.map_cons, List.mapM_cons, toRecord_ofRecord hr.names, ih hrest]
    rfl

theorem readBack_eq_iff {r : Record} (h : r.IsProper) :
    r.readBack = r ↔ ∀ p ∈ r, p.2.fitsInt64 = true := by
  have hcells : r.readBack = r ↔ ∀ p ∈ r, (p.1, (Value.ofJson p.2).toJson) = p := by
    have hmap := List.map_inj_left (l := r) (g := id)
      (f := fun p => (p.1, (Value.ofJson p.2).toJson))
    rwa [List.map_id] at hmap
  rw [hcells]
  refine forall₂_congr fun p hp => ?_
  rw [← Value.toJson_ofJson_iff (h.values p hp), Prod.ext_iff]
  simp

/-- Rows are read as they are just if all their values are. -/
theorem map_readBack_eq_iff {rows : List Record} (h : ∀ r ∈ rows, r.IsProper) :
    rows.map readBack = rows ↔ ∀ r ∈ rows, ∀ p ∈ r, p.2.fitsInt64 = true := by
  have hrows := List.map_inj_left (l := rows) (f := readBack) (g := id)
  rw [List.map_id] at hrows
  rw [hrows]
  exact forall₂_congr fun r hr => readBack_eq_iff (h r hr)

end Record

namespace ScriptedPool

/-- The pool once it received these statements, whatever they were sent for. -/
def receiveAll (ss : List Statement) (pool : ScriptedPool) : ScriptedPool :=
  ss.foldl (fun p s => (p.receive s).2) pool

theorem responses_receiveAll (ss : List Statement) (pool : ScriptedPool) :
    (pool.receiveAll ss).responses = pool.responses.drop ss.length := by
  induction ss generalizing pool with
  | nil => rfl
  | cons s rest ih => exact (ih (pool.receive s).2).trans List.drop_tail

/-- What is pushed answers the statement that comes after as many as there were responses. -/
theorem fetchAll_pushed (pool : ScriptedPool) (rows : List Record) {others : List Statement}
    (h : others.length = pool.responses.length) (s : Statement) :
    (Pool.fetchAll s ((pool.push (.rows rows)).receiveAll others)).1 =
      .ok (rows.map Row.ofRecord) := by
  have hresponses : ((pool.push (.rows rows)).receiveAll others).responses = [.rows rows] := by
    rw [responses_receiveAll, h]
    exact List.drop_left
  show fetchResult ((pool.push (.rows rows)).receiveAll others).responses.head? = _
  rw [hresponses]
  rfl

end ScriptedPool
end SqlRecords
