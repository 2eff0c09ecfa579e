import SqlRecords.Pool.Scripted
import SqlRecords.Proofs.Session.Steps
import SqlRecords.Remote.Pool
import SqlRecords.Session.Stream

/-! Rows in batches: what a consumer is handed, how far the cursor has been read by then, and how
reading ends. -/
namespace SqlRecords

namespace Streamed
variable {size : Nat} {consumer : Consumer (List Record)} {past : List Delivery}

/-- The records of a cursor, up to the first item that gives none. -/
def records : Cursor → List Record
  | .ok row :: rest =>
    match row.toRecord with
    | .ok record => record :: records rest
    | .error _ => []
  | _ => []

/-- Why a cursor gives no more records before its end: an error in the place of a row, or a row that
makes no record. -/
def fault? (sql : String) : Cursor → Option Failure
  | [] => none
  | .error f :: _ => some (f.withSql sql)
  | .ok row :: rest =>
    match row.toRecord with
    | .ok _ => fault? sql rest
    | .error f => some f

/-- Whether full batches were handed over, each as soon as its last row was read, and the consumer
asked for more after each. -/
def Accepted (size : Nat) (consumer : Consumer (List Record)) (past : List Delivery) : Prop :=
  ∀ front d back, past = front ++ d :: back → d.batch.length = size ∧
    d.pulled = delivered (front ++ [d]) ∧ consumer (batches (front ++ [d])) = .ok true

/-- Whether the consumer asked for more after each full batch. -/
def GoesOn (size : Nat) (consumer : Consumer (List Record)) (deliveries : List Delivery) : Prop :=
  ∀ front d back, deliveries = front ++ d :: back → d.batch.length = size →
    consumer (batches (front ++ [d])) = .ok true

/-- Batches of consecutive rows, handed over one by one. -/
structure Handover (size : Nat) (consumer : Consumer (List Record)) (rows : List Record)
    (deliveries : List Delivery) : Prop where
  in_order : (batches deliveries).flatten <+: rows
  /-- No batch is empty, and none but the last is short. -/
  sizes (front : List Delivery) (d : Delivery) (back : List Delivery) :
    deliveries = front ++ d :: back →
      d.batch ≠ [] ∧ d.batch.length ≤ size ∧ (back ≠ [] → d.batch.length = size)
  /-- When a batch is handed over, the rows of the batches so far have been read and no others. -/
  pulled (front : List Delivery) (d : Delivery) (back : List Delivery) :
    deliveries = front ++ d :: back → d.pulled = delivered (front ++ [d])
  /-- The consumer asked for all batches but the first. -/
  asked (front : List Delivery) (d : Delivery) (back : List Delivery) :
    deliveries = front ++ d :: back → back ≠ [] → consumer (batches (front ++ [d])) = .ok true

/-- How a cursor of these rows, with a fault after them or none, is handed over in batches. -/
structure Delivers (size : Nat) (consumer : Consumer (List Record)) (rows : List Record)
    (fault : Option Failure) (r : Streamed) : Prop
    extends Handover size consumer rows r.deliveries where
  /-- After a full batch that the consumer declines or fails on, nothing is read any more. -/
  declined : ¬ GoesOn size consumer r.deliveries → ∃ front d, r.deliveries = front ++ [d] ∧
    d.batch.length = size ∧ consumer (batches r.deliveries) ≠ .ok true ∧ r.pulled = d.pulled ∧
    r.outcome = (consumer (batches r.deliveries)).map fun _ => delivered r.deliveries
  /-- At the end of the cursor all rows are handed over, and only the failure of the consumer of a
  last, short batch still counts. -/
  ended : fault = none → GoesOn size consumer r.deliveries →
    (batches r.deliveries).flatten = rows ∧ r.pulled = rows.length ∧
      r.outcome = if rows.length % size = 0 then .ok rows.length
        else (consumer (batches r.deliveries)).map fun _ => rows.length
  /-- Before a fault only full batches are handed over. -/
  broken (f : Failure) : fault = some f → GoesOn size consumer r.deliveries →
    delivered r.deliveries = rows.length / size * size ∧ r.outcome = .error f
  /-- A short batch is handed over just at the end of the cursor, if rows are left. -/
  trailing : (∃ d ∈ r.deliveries, d.batch.length < size) ↔
    fault = none ∧ GoesOn size consumer r.deliveries ∧ rows.length % size ≠ 0
  outcome (n : Nat) : r.outcome = .ok n → n = delivered r.deliveries

theorem batches_concat (past : List Delivery) (d : Delivery) :
    batches (past ++ [d]) = batches past ++ [d.batch] := List.map_append

theorem flatten_concat (past : List Delivery) (d : Delivery) :
    (batches (past ++ [d])).flatten = (batches past).flatten ++ d.batch := by
  rw [batches_concat, List.flatten_append]
  simp

theorem delivered_concat (past : List Delivery) (d : Delivery) :
    delivered (past ++ [d]) = delivered past + d.batch.length := by
  rw [delivered, flatten_concat, List.length_append]
  rfl

/-- What a consumer says decides only whether there is an outcome. -/
theorem eq_of_map_const {answer : Except Failure Bool} {n m : Nat}
    (h : answer.map (fun _ => n) = .ok m) : m = n := by
  cases answer with
  | error f => cases h
  | ok more => exact (Except.ok.inj h).symm

/-- A delivery among those with one more at the end is that one or one of those. -/
theorem split_concat {front back : List Delivery} {d last : Delivery}
    (h : past ++ [last] = front ++ d :: back) :
    (back = [] ∧ front = past ∧ d = last) ∨
      ∃ between, back = between ++ [last] ∧ past = front ++ d :: between := by
  rcases List.eq_nil_or_concat back with rfl | ⟨between, other, rfl⟩
  · obtain ⟨rfl, hlast⟩ := List.append_inj' h rfl
    cases hlast
    exact .inl ⟨rfl, rfl, rfl⟩
  · rw [List.concat_eq_append] at h ⊢
    have hsplit : past ++ [last] = (front ++ d :: between) ++ [other] := by simpa using h
    obtain ⟨rfl, hlast⟩ := List.append_inj' hsplit rfl
    cases hlast
    exact .inr ⟨between, rfl, rfl⟩

theorem GoesOn.concat (h : GoesOn size consumer past) {d : Delivery}
    (hmore : d.batch.length = size → consumer (batches (past ++ [d])) = .ok true) :
    GoesOn size consumer (past ++ [d]) := by
  intro front other back hsplit hfull
  rcases split_concat hsplit with ⟨-, rfl, rfl⟩ | ⟨between, -, rfl⟩
  · exact hmore hfull
  · exact h front other between rfl hfull

namespace Accepted

theorem nil : Accepted size consumer [] := by
  intro front d back h
  simp at h

theorem concat (h : Accepted size consumer past) {d : Delivery} (hsize : d.batch.length = size)
    (hpulled : d.pulled = delivered (past ++ [d]))
    (hmore : consumer (batches (past ++ [d])) = .ok true) :
    Accepted size consumer (past ++ [d]) := by
  intro front other back hsplit
  rcases split_concat hsplit with ⟨-, rfl, rfl⟩ | ⟨between, -, rfl⟩
  · exact ⟨hsize, hpulled, hmore⟩
  · exact h front other between rfl

theorem length_eq (h : Accepted size consumer past) {d : Delivery} (hd : d ∈ past) :
    d.batch.length = size := by
  obtain ⟨front, back, rfl⟩ := List.append_of_mem hd
  exact (h front d back rfl).1

theorem no_short (h : Accepted size consumer past) : ¬ ∃ d ∈ past, d.batch.length < size := by
  rintro ⟨d, hd, hshort⟩
  exact absurd (h.length_eq hd) (Nat.ne_of_lt hshort)

theorem dvd_delivered (h : Accepted size consumer past) : size ∣ delivered past := by
  have hall : ∀ d ∈ past, d.batch.length = size := fun d hd => h.length_eq hd
  clear h
  induction past with
  | nil => exact Nat.dvd_zero size
  | cons d rest ih =>
    obtain ⟨hd, hrest⟩ := List.forall_mem_cons.mp hall
    have hcons : delivered (d :: rest) = size + delivered rest := by
      rw [← hd]
      exact List.length_append
    rw [hcons]
    exact Nat.dvd_add (Nat.dvd_refl size) (ih hrest)

theorem goesOn (h : Accepted size consumer past) : GoesOn size consumer past :=
  fun front d back hsplit _ => (h front d back hsplit).2.2

theorem handover (h : Accepted size consumer past) (hsize : 0 < size) {rows : List Record}
    (hrows : (batches past).flatten <+: rows) : Handover size consumer rows past where
  in_order := hrows
  sizes := by
    intro front d back hsplit
    have hfull := (h front d back hsplit).1
    refine ⟨?_, Nat.le_of_eq hfull, fun _ => hfull⟩
    rintro hnil
    rw [hnil] at hfull
    exact Nat.ne_of_lt hsize hfull
  pulled := fun front d back hsplit => (h front d back hsplit).2.1
  asked := fun front d back hsplit _ => (h front d back hsplit).2.2

theorem handover_concat (h : Accepted size consumer past) {d : Delivery} (hne : d.batch ≠ [])
    (hle : d.batch.length ≤ size) (hpulled : d.pulled = delivered (past ++ [d]))
    {rows : List Record} (hrows : (batches (past ++ [d])).flatten <+: rows) :
    Handover size consumer rows (past ++ [d]) := by
  have hsize : 0 < size := Nat.lt_of_lt_of_le (List.length_pos_iff.mpr hne) hle
  have hpast := h.handover hsize (List.prefix_refl _)
  constructor
  case in_order =>
    exact hrows
  case sizes =>
    intro front other back hsplit
    rcases split_concat hsplit with ⟨rfl, -, rfl⟩ | ⟨between, -, rfl⟩
    · exact ⟨hne, hle, fun hback => absurd rfl hback⟩
    · have hfull := (h front other between rfl).1
      obtain ⟨hother, -, -⟩ := hpast.sizes front other between rfl
      exact ⟨hother, Nat.le_of_eq hfull, fun _ => hfull⟩
  case pulled =>
    intro front other back hsplit
    rcases split_concat hsplit with ⟨-, rfl, rfl⟩ | ⟨between, -, rfl⟩
    · exact hpulled
    · exact hpast.pulled front other between rfl
  case asked =>
    intro front other back hsplit hback
    rcases split_concat hsplit with ⟨rfl, -, -⟩ | ⟨between, -, rfl⟩
    · exact absurd rfl hback
    · exact (h front other between rfl).2.2

end Accepted

section
variable {batch : List Record}

/-- The cursor ends right after a full batch. -/
theorem delivers_exactly (hsize : 0 < size) (h : Accepted size consumer past) :
    Delivers size consumer (batches past).flatten none
      ⟨past, delivered past, .ok (delivered past)⟩ := by
  have hmultiple : (batches past).flatten.length % size = 0 :=
    Nat.mod_eq_zero_of_dvd h.dvd_delivered
  constructor
  case toHandover =>
    exact h.handover hsize (List.prefix_refl _)
  case declined =>
    intro hstops
    exact absurd h.goesOn hstops
  case ended =>
    intro _ _
    rw [if_pos hmultiple]
    exact ⟨rfl, rfl, rfl⟩
  case broken =>
    intro f hf
    cases hf
  case trailing =>
    constructor
    · intro hshort
      exact absurd hshort h.no_short
    · rintro ⟨-, -, hrest⟩
      exact absurd hmultiple hrest
  case outcome =>
    intro n hn
    exact (Except.ok.inj hn).symm

/-- The cursor ends within a batch. -/
theorem delivers_trailing (h : Accepted size consumer past) {d : Delivery} (hne : d.batch ≠ [])
    (hshort : d.batch.length < size) (hpulled : d.pulled = delivered (past ++ [d])) :
    Delivers size consumer ((batches past).flatten ++ d.batch) none
      ⟨past ++ [d], d.pulled,
        (consumer (batches (past ++ [d]))).map fun _ => delivered (past ++ [d])⟩ := by
  have hpositive : 0 < d.batch.length := List.length_pos_iff.mpr hne
  have hrows : ((batches past).flatten ++ d.batch).length = delivered (past ++ [d]) := by
    rw [← flatten_concat]
    rfl
  have hrest : delivered (past ++ [d]) % size = d.batch.length := by
    obtain ⟨k, hk⟩ := h.dvd_delivered
    rw [delivered_concat, hk, Nat.mul_add_mod, Nat.mod_eq_of_lt hshort]
  have hgoes : GoesOn size consumer (past ++ [d]) :=
    h.goesOn.concat fun hfull => absurd hfull (Nat.ne_of_lt hshort)
  constructor
  case toHandover =>
    refine h.handover_concat hne (Nat.le_of_lt hshort) hpulled ?_
    simp only [flatten_concat, List.prefix_refl]
  case declined =>
    intro hstops
    exact absurd hgoes hstops
  case ended =>
    intro _ _
    rw [hrows, if_neg (by omega)]
    exact ⟨flatten_concat past d, hpulled, rfl⟩
  case broken =>
    intro f hf
    cases hf
  case trailing =>
    constructor
    · intro _
      refine ⟨rfl, hgoes, ?_⟩
      rw [hrows, hrest]
      exact Nat.ne_of_gt hpositive
    · intro _
      exact ⟨d, List.mem_append_right past List.mem_cons_self, hshort⟩
  case outcome =>
    exact fun m => eq_of_map_const

/-- A fault comes before a batch is full. -/
theorem delivers_before_fault (h : Accepted size consumer past) (hshort : batch.length < size)
    (f : Failure) (n : Nat) :
    Delivers size consumer ((batches past).flatten ++ batch) (some f) ⟨past, n, .error f⟩ := by
  constructor
  case toHandover =>
    exact h.handover (by omega) (List.prefix_append _ _)
  case declined =>
    intro hstops
    exact absurd h.goesOn hstops
  case ended =>
    intro hnone
    cases hnone
  case broken =>
    intro g hg _
    cases hg
    obtain ⟨k, hk⟩ := h.dvd_delivered
    have hlength : ((batches past).flatten ++ batch).length = size * k + batch.length := by
      rw [List.length_append, ← hk]
      rfl
    refine ⟨?_, rfl⟩
    rw [hlength, Nat.mul_add_div (by omega), Nat.div_eq_of_lt hshort, Nat.add_zero, Nat.mul_comm]
    exact hk
  case trailing =>
    constructor
    · intro hany
      exact absurd hany h.no_short
    · rintro ⟨hnone, -⟩
      cases hnone
  case outcome =>
    intro m hm
    cases hm

/-- The consumer declines a full batch, or fails on it. -/
theorem delivers_until_declined (hsize : 0 < size) (h : Accepted size consumer past) {d : Delivery}
    (hfull : d.batch.length = size) (hpulled : d.pulled = delivered (past ++ [d]))
    (hstop : consumer (batches (past ++ [d])) ≠ .ok true) (rest : List Record)
    (fault : Option Failure) :
    Delivers size consumer ((batches past).flatten ++ d.batch ++ rest) fault
      ⟨past ++ [d], d.pulled,
        (consumer (batches (past ++ [d]))).map fun _ => delivered (past ++ [d])⟩ := by
  have hne : d.batch ≠ [] := List.length_pos_iff.mp (by omega)
  have hstops : ¬ GoesOn size consumer (past ++ [d]) := fun hgoes =>
    hstop (hgoes past d [] rfl hfull)
  constructor
  case toHandover =>
    refine h.handover_concat hne (Nat.le_of_eq hfull) hpulled ?_
    rw [flatten_concat]
    exact List.prefix_append _ _
  case declined =>
    intro _
    exact ⟨past, d, rfl, hfull, hstop, rfl, rfl⟩
  case ended =>
    intro _ hgoes
    exact absurd hgoes hstops
  case broken =>
    intro f _ hgoes
    exact absurd hgoes hstops
  case trailing =>
    constructor
    · rintro ⟨other, hother, hshort⟩
      rcases List.mem_append.mp hother with hother | hother
      · exact absurd ⟨other, hother, hshort⟩ h.no_short
      · rw [List.mem_singleton.mp hother] at hshort
        exact absurd hfull (Nat.ne_of_lt hshort)
    · rintro ⟨-, hgoes, -⟩
      exact absurd hgoes hstops
  case outcome =>
    exact fun m => eq_of_map_const

section
variable (sql : String) (size : Nat) (consumer : Consumer (List Record)) (past : List Delivery)
  (batch : List Record) (pulled : Nat) {row : Row} {record : Record} (rest : Cursor)
  (hrecord : row.toRecord = .ok record)
include hrecord

theorem ofCursor_short (hroom : batch.length + 1 < size) :
    ofCursor sql size consumer past batch pulled (.ok row :: rest) =
      ofCursor sql size consumer past (batch ++ [record]) (pulled + 1) rest := by
  simp only [ofCursor, hrecord, if_pos hroom]

section
variable (hroom : ¬ batch.length + 1 < size) {d : Delivery}
  (hd : d = ⟨batch ++ [record], pulled + 1⟩)
include hroom hd

theorem ofCursor_accepted (hmore : consumer (batches (past ++ [d])) = .ok true) :
    ofCursor sql size consumer past batch pulled (.ok row :: rest) =
      ofCursor sql size consumer (past ++ [d]) [] d.pulled rest := by
  subst hd
  simp only [ofCursor, hrecord, if_neg hroom, hmore]

theorem ofCursor_declined (hstop : consumer (batches (past ++ [d])) ≠ .ok true) :
    ofCursor sql size consumer past batch pulled (.ok row :: rest) =
      ⟨past ++ [d], d.pulled,
        (consumer (batches (past ++ [d]))).map fun _ => delivered (past ++ [d])⟩ := by
  subst hd
  simp only [ofCursor, hrecord, if_neg hroom]
  cases hanswer : consumer (batches (past ++ [⟨batch ++ [record], pulled + 1⟩])) with
  | error f => rfl
  | ok more =>
    cases more with
    | false => rfl
    | true => exact absurd hanswer hstop

end
end

/-- A cursor is handed over in batches from wherever reading it has come to. -/
theorem ofCursor_delivers (sql : String) (size : Nat) (consumer : Consumer (List Record))
    {past : List Delivery} (hpast : Accepted (max size 1) consumer past) {batch : List Record}
    (hbatch : batch.length < max size 1) (cursor : Cursor) :
    Delivers (max size 1) consumer ((batches past).flatten ++ batch ++ records cursor)
      (fault? sql cursor)
      (ofCursor sql size consumer past batch (delivered past + batch.length) cursor) := by
  have hsize : 0 < max size 1 := by omega
  have hempty : ([] : List Record).length < max size 1 := hsize
  -- On the cursor: what was read is either handed over and accepted or waits in a batch with room.
  induction cursor generalizing past batch with
  | nil =>
    simp only [records, fault?, ofCursor, List.append_nil]
    cases batch with
    | nil =>
      simp only [List.append_nil]
      exact delivers_exactly hsize hpast
    | cons record rest =>
      exact delivers_trailing (d := ⟨record :: rest, delivered past + (record :: rest).length⟩)
        hpast (List.cons_ne_nil record rest) hbatch (by rw [delivered_concat])
  | cons item rest ih =>
    cases item with
    | error f =>
      simp only [records, fault?, ofCursor, List.append_nil]
      exact delivers_before_fault hpast hbatch _ _
    | ok row =>
      cases hrecord : row.toRecord with
      | error f =>
        simp only [records, fault?, ofCursor, hrecord, List.append_nil]
        exact delivers_before_fault hpast hbatch _ _
      | ok record =>
        have hlength : (batch ++ [record]).length = batch.length + 1 := List.length_append
        have hrows : (batches past).flatten ++ batch ++ record :: records rest =
            (batches past).flatten ++ (batch ++ [record]) ++ records rest := by simp
        simp only [records, fault?, hrecord, hrows]
        by_cases hroom : batch.length + 1 < size
        · rw [ofCursor_short _ _ _ _ _ _ _ hrecord hroom, Nat.add_assoc, ← hlength]
          exact ih hpast (by omega)
        · obtain ⟨d, hd⟩ : ∃ d : Delivery,
              d = ⟨batch ++ [record], delivered past + batch.length + 1⟩ := ⟨_, rfl⟩
          have hbatch : batch ++ [record] = d.batch := by rw [hd]
          have hpulled : d.pulled = delivered (past ++ [d]) := by
            rw [delivered_concat, ← hbatch, hlength, hd, Nat.add_assoc]
          have hfull : d.batch.length = max size 1 := by
            rw [← hbatch, hlength]
            omega
          rw [hbatch]
          by_cases hmore : consumer (batches (past ++ [d])) = .ok true
          · have hnext := ih (hpast.concat hfull hpulled hmore) hempty
            rw [flatten_concat, List.append_nil, List.length_nil, Nat.add_zero, ← hpulled] at hnext
            rw [ofCursor_accepted _ _ _ _ _ _ _ hrecord hroom hd hmore]
            exact hnext
          · rw [ofCursor_declined _ _ _ _ _ _ _ hrecord hroom hd hmore]
            exact delivers_until_declined hsize hpast hfull hpulled hmore _ _

theorem ofCursor_delivers_all (sql : String) (size : Nat) (consumer : Consumer (List Record))
    (cursor : Cursor) : Delivers (max size 1) consumer (records cursor) (fault? sql cursor)
      (ofCursor sql size consumer [] [] 0 cursor) := by
  have hempty : ([] : List Record).length < max size 1 :=
    Nat.lt_of_lt_of_le Nat.one_pos (Nat.le_max_right size 1)
  exact ofCursor_delivers sql size consumer Accepted.nil hempty cursor

/-- Whether `f` comes to its result on the first rows of a cursor, whatever follows them. -/
def StopsWithin (f : Cursor → Streamed) (pulled : Nat) (cursor : Cursor) : Prop :=
  ∃ read unread, cursor = read ++ unread ∧ (f cursor).pulled = pulled + read.length ∧
    ∀ other, f (read ++ other) = f cursor

theorem StopsWithin.cons {f g : Cursor → Streamed} {pulled : Nat} {item : Except Failure Row}
    {rest : Cursor} (h : StopsWithin g (pulled + 1) rest) (hstep : ∀ c, f (item :: c) = g c) :
    StopsWithin f pulled (item :: rest) := by
  obtain ⟨read, unread, rfl, hpulled, hsame⟩ := h
  refine ⟨item :: read, unread, rfl, ?_, fun other => ?_⟩
  · rw [hstep, hpulled, List.length_cons]
    omega
  · rw [List.cons_append, hstep, hstep, hsame]

/-- What a cursor holds after a full batch that was declined does not matter. -/
theorem ofCursor_stopsWithin (sql : String) (size : Nat) (consumer : Consumer (List Record))
    {past : List Delivery} (hpast : GoesOn (max size 1) consumer past) {batch : List Record}
    (hbatch : batch.length < max size 1) (pulled : Nat) (cursor : Cursor)
    (hstops : ¬ GoesOn (max size 1) consumer
      (ofCursor sql size consumer past batch pulled cursor).deliveries) :
    StopsWithin (ofCursor sql size consumer past batch pulled) pulled cursor := by
  have hempty : ([] : List Record).length < max size 1 := Nat.lt_of_le_of_lt (Nat.zero_le _) hbatch
  induction cursor generalizing past batch pulled with
  | nil =>
    cases batch with
    | nil => exact absurd hpast hstops
    | cons record rest =>
      exact absurd (hpast.concat fun hfull => absurd hfull (Nat.ne_of_lt hbatch)) hstops
  | cons item rest ih =>
    cases item with
    | error f => exact absurd hpast hstops
    | ok row =>
      cases hrecord : row.toRecord with
      | error f =>
        simp only [ofCursor, hrecord] at hstops
        exact absurd hpast hstops
      | ok record =>
        by_cases hroom : batch.length + 1 < size
        · have hstep (c : Cursor) :=
            ofCursor_short sql size consumer past batch pulled c hrecord hroom
          have hlength : (batch ++ [record]).length < max size 1 := by
            rw [List.length_append, List.length_singleton]
            omega
          rw [hstep] at hstops
          exact (ih hpast hlength (pulled + 1) hstops).cons hstep
        · obtain ⟨d, hd⟩ : ∃ d : Delivery, d = ⟨batch ++ [record], pulled + 1⟩ := ⟨_, rfl⟩
          have hpulled : d.pulled = pulled + 1 := by rw [hd]
          by_cases hmore : consumer (batches (past ++ [d])) = .ok true
          · have hstep (c : Cursor) :=
              ofCursor_accepted sql size consumer past batch pulled c hrecord hroom hd hmore
            rw [hpulled] at hstep
            rw [hstep] at hstops
            exact (ih (hpast.concat fun _ => hmore) hempty (pulled + 1) hstops).cons hstep
          · have hstep (c : Cursor) :=
              ofCursor_declined sql size consumer past batch pulled c hrecord hroom hd hmore
            refine ⟨[.ok row], rest, rfl, ?_, fun other => ?_⟩
            · rw [hstep]
              exact hpulled
            · rw [List.singleton_append, hstep, hstep]

end

/-- Rows without a fault all make records. -/
theorem mapM_toRecord {sql : String} {rows : List Row} (h : fault? sql (rows.map .ok) = none) :
    rows.mapM Row.toRecord = .ok (records (rows.map .ok)) := by
  induction rows with
  | nil => rfl
  | cons row rest ih =>
    rw [List.map_cons] at h ⊢
    rw [List.mapM_cons]
    cases hrecord : row.toRecord with
    | error f =>
      simp only [fault?, hrecord] at h
      cases h
    | ok record =>
      simp only [fault?, hrecord] at h
      simp only [records, hrecord, ih h, ok_bind, pure_eq_ok]

/-- A cursor without a fault holds rows only. -/
theorem eq_map_ok {sql : String} {cursor : Cursor} (h : fault? sql cursor = none) :
    ∃ rows : List Row, cursor = rows.map .ok := by
  induction cursor with
  | nil => exact ⟨[], rfl⟩
  | cons item rest ih =>
    cases item with
    | error f => cases h
    | ok row =>
      cases hrecord : row.toRecord with
      | error f =>
        simp only [fault?, hrecord] at h
        cases h
      | ok record =>
        simp only [fault?, hrecord] at h
        obtain ⟨rows, rfl⟩ := ih h
        exact ⟨row :: rows, rfl⟩

end Streamed

/-- A pool whose statements can be read at once or row by row, and give the same rows or the same
error. -/
def Pool.ReadsAlike (π : Type) [Pool π] : Prop :=
  ∀ (s : Statement) (p : π), (Pool.fetchAll s p).1 = (Pool.openCursor s p).1.mapM id

theorem Cursor.mapM_map_ok (rows : List Row) :
    (rows.map .ok : Cursor).mapM id = Except.ok (ε := Failure) rows := by
  have hpure := List.mapM_pure (m := Except Failure) (l := rows) (f := id)
  rw [List.map_id] at hpure
  rw [List.mapM_map]
  exact hpure

theorem ScriptedPool.readsAlike : Pool.ReadsAlike ScriptedPool := by
  intro s p
  show fetchResult p.responses.head? = (cursorOf p.responses.head?).mapM id
  unfold cursorOf
  cases fetchResult p.responses.head? with
  | error f => rfl
  | ok rows => exact (Cursor.mapM_map_ok rows).symm

theorem RemotePool.readsAlike : Pool.ReadsAlike RemotePool := by
  have hreply (engine : RemoteEngine) (reply : Remote.Reply) :
      (answerOf engine reply).map (rowsOf engine) = (cursorOf engine reply).mapM id := by
    cases reply with
    | refused e => rfl
    | ran answer fault =>
      unfold cursorOf
      rw [List.mapM_append, Cursor.mapM_map_ok]
      cases fault with
      | none => exact congrArg Except.ok (List.append_nil _).symm
      | some e => rfl
  intro s p
  have hfetch : (Pool.fetchAll s p).1 = if p.isClosed then .error closedFailure
      else (answerOf p.engine (p.send s).1).map (rowsOf p.engine) := by
    show (if p.isClosed then _ else _ : Except Failure (List Row) × RemotePool).1 = _
    cases p.isClosed <;> rfl
  have hopen : (Pool.openCursor s p).1 = if p.isClosed then [.error closedFailure]
      else cursorOf p.engine (p.send s).1 := by
    show (if p.isClosed then _ else _ : Cursor × RemotePool).1 = _
    cases p.isClosed <;> rfl
  rw [hfetch, hopen]
  cases p.isClosed with
  | true => rfl
  | false => exact hreply p.engine (p.send s).1

namespace Query
variable {π : Type}
open Session

theorem yields_written {e : Except Incomplete Statement} {s : Statement} (h : e = .ok s)
    (db : Database π) : (written e).Yields db s db := by
  rw [h]
  exact yields_ofExcept.mpr ⟨rfl, rfl⟩

variable [Pool π]

section
variable {q : Query} {s : Statement} (hs : q.selectStatement = .ok s) {db mid : Database π} {i : Nat}
  (hi : q.pool.Yields db i mid) {o : OpenedPool π} (ho : mid.opened[i]? = some o) (memory : Memory)
  (size : Nat) (consumer : Consumer (List Record))
include hs hi ho

/-- How the rows of a query are handed over that can be written and has a pool. -/
theorem yields_stream (hroom : memory.crash? (max size 1) = none) {r : Streamed}
    (hr : Streamed.ofCursor s.sql size consumer [] [] 0 (Pool.openCursor s o.pool).1 = r) :
    (q.stream memory size consumer).Yields db (.ok r)
      (mid.modifyPool i fun _ => Pool.notePulled r.pulled (Pool.openCursor s o.pool).2) := by
  have hopen := yields_onPool_of_open (Pool.openCursor s) ho
  have hmodified : (mid.modifyPool i fun _ => (Pool.openCursor s o.pool).2).opened[i]? =
      some { o with pool := (Pool.openCursor s o.pool).2 } := by
    unfold Database.modifyPool
    rw [List.getElem?_modify, ho]
    simp
  have hnote := yields_onPool_of_open (fun pool => ((), Pool.notePulled r.pulled pool)) hmodified
  have htwice : ((mid.modifyPool i fun _ => (Pool.openCursor s o.pool).2).modifyPool i fun _ =>
      Pool.notePulled r.pulled (Pool.openCursor s o.pool).2) =
      mid.modifyPool i fun _ => Pool.notePulled r.pulled (Pool.openCursor s o.pool).2 := by
    unfold Database.modifyPool
    rw [List.modify_modify_eq]
    rfl
  rw [htwice] at hnote
  unfold stream streamAt
  rw [hroom]
  refine yields_bind.mpr ⟨s, db, yields_written hs db, ?_⟩
  refine yields_bind.mpr ⟨i, mid, hi, ?_⟩
  refine yields_bind.mpr ⟨_, _, hopen, ?_⟩
  simp only [hr]
  exact yields_bind.mpr ⟨(), _, hnote, yields_pure.mpr ⟨rfl, rfl⟩⟩

/-- Without room for a batch no row is asked for. -/
theorem yields_stream_of_crash {crash : Crash} (hcrash : memory.crash? (max size 1) = some crash) :
    (q.stream memory size consumer).Yields db (.error crash)
      (mid.modifyPool i fun _ => Pool.dropCursor s o.pool) := by
  have hdrop := yields_onPool_of_open (fun pool => ((), Pool.dropCursor s pool)) ho
  unfold stream streamAt
  rw [hcrash]
  refine yields_bind.mpr ⟨s, db, yields_written hs db, ?_⟩
  refine yields_bind.mpr ⟨i, mid, hi, ?_⟩
  exact yields_bind.mpr ⟨(), _, hdrop, yields_pure.mpr ⟨rfl, rfl⟩⟩

end

theorem yields_fetch {q : Query} {s : Statement} (hs : q.selectStatement = .ok s)
    {db mid : Database π} {i : Nat} (hi : q.pool.Yields db i mid) {o : OpenedPool π}
    (ho : mid.opened[i]? = some o) {rows : List Row} (hrows : (Pool.fetchAll s o.pool).1 = .ok rows)
    {records : List Record} (hrecords : rows.mapM Row.toRecord = .ok records) :
    q.fetch.Yields db records (mid.modifyPool i fun _ => (Pool.fetchAll s o.pool).2) := by
  have hfetch := yields_onPool_of_open (Pool.fetchAll s) ho
  rw [hrows] at hfetch
  unfold fetch rowsOf
  refine yields_bind.mpr ⟨s, db, yields_written hs db, ?_⟩
  refine yields_bind.mpr ⟨i, mid, hi, ?_⟩
  refine yields_bind.mpr ⟨_, _, hfetch, ?_⟩
  refine yields_bind.mpr ⟨rows, _, yields_ofExcept.mpr ⟨rfl, rfl⟩, ?_⟩
  exact yields_ofExcept.mpr ⟨hrecords, rfl⟩

/-- A query hands the rows of its cursor over in batches of `size`, at least one row each. -/
structure HandsOver (q : Query) (s : Statement) (db : Database π) (cursor : Cursor) (size : Nat)
    (consumer : Consumer (List Record)) (r : Streamed) : Prop where
  delivers : Streamed.Delivers (max size 1) consumer (Streamed.records cursor)
    (Streamed.fault? s.sql cursor) r
  /-- The cursor is read no further than for a batch that is declined. -/
  unread : ¬ Streamed.GoesOn (max size 1) consumer r.deliveries →
    ∃ read unread, cursor = read ++ unread ∧ r.pulled = read.length ∧
      ∀ other, Streamed.ofCursor s.sql size consumer [] [] 0 (read ++ other) = r
  /-- If the consumer always goes on and nothing fails, the batches together are what the query
  fetches. -/
  fetched : Pool.ReadsAlike π → (∀ given, consumer given = .ok true) →
    Streamed.fault? s.sql cursor = none →
    ∃ db', q.fetch.Yields db (Streamed.batches r.deliveries).flatten db'

theorem handsOver_ofCursor {q : Query} {s : Statement} (hs : q.selectStatement = .ok s)
    {db mid : Database π} {i : Nat} (hi : q.pool.Yields db i mid) {o : OpenedPool π}
    (ho : mid.opened[i]? = some o) {cursor : Cursor}
    (hcursor : (Pool.openCursor s o.pool).1 = cursor) (size : Nat)
    (consumer : Consumer (List Record)) {r : Streamed}
    (hr : Streamed.ofCursor s.sql size consumer [] [] 0 cursor = r) :
    q.HandsOver s db cursor size consumer r := by
  have hempty : ([] : List Record).length < max size 1 :=
    Nat.lt_of_lt_of_le Nat.one_pos (Nat.le_max_right size 1)
  have hdelivers : Streamed.Delivers (max size 1) consumer (Streamed.records cursor)
      (Streamed.fault? s.sql cursor) r :=
    hr ▸ Streamed.ofCursor_delivers_all s.sql size consumer cursor
  constructor
  case delivers => exact hdelivers
  case unread =>
    intro hstops
    rw [← hr] at hstops ⊢
    obtain ⟨read, unread, hsplit, hpulled, hsame⟩ := Streamed.ofCursor_stopsWithin s.sql size
      consumer Streamed.Accepted.nil.goesOn hempty 0 cursor hstops
    exact ⟨read, unread, hsplit, hpulled.trans (Nat.zero_add _), hsame⟩
  case fetched =>
    intro halike hmore hfault
    obtain ⟨rows, rfl⟩ := Streamed.eq_map_ok hfault
    have hfetched : (Pool.fetchAll s o.pool).1 = .ok rows := by
      rw [halike s o.pool, hcursor]
      exact Cursor.mapM_map_ok rows
    have hall := (hdelivers.ended hfault fun front d _ _ _ => hmore _).1
    rw [hall]
    exact ⟨_, yields_fetch hs hi ho hfetched (Streamed.mapM_toRecord hfault)⟩

/-- A query hands its rows over in batches, and reads its cursor no further than for the batch it
hands over, exactly if there is room for a whole batch. If there is none the program breaks off
before it has read or handed over anything, however few rows there are. -/
theorem stream_hands_over_iff {q : Query} {s : Statement} (hs : q.selectStatement = .ok s)
    {db mid : Database π} {i : Nat} (hi : q.pool.Yields db i mid) {o : OpenedPool π}
    (ho : mid.opened[i]? = some o) {cursor : Cursor}
    (hcursor : (Pool.openCursor s o.pool).1 = cursor) (memory : Memory) (size : Nat)
    (consumer : Consumer (List Record)) :
    ((∃ r, (q.stream memory size consumer).Yields db (.ok r)
        (mid.modifyPool i fun _ => Pool.notePulled r.pulled (Pool.openCursor s o.pool).2) ∧
        q.HandsOver s db cursor size consumer r) ↔
      max size 1 * memory.recordSize ≤ Memory.greatestBlock ∧
        memory.hasBlock (max size 1 * memory.recordSize)) ∧
    ∀ crash, memory.crash? (max size 1) = some crash →
      (q.stream memory size consumer).Yields db (.error crash)
        (mid.modifyPool i fun _ => Pool.dropCursor s o.pool) := by
  have hbreaks (crash : Crash) (hcrash : memory.crash? (max size 1) = some crash) :=
    yields_stream_of_crash hs hi ho memory size consumer hcrash
  refine ⟨?_, hbreaks⟩
  rw [← Memory.crash?_eq_none_iff]
  constructor
  · rintro ⟨r, hstream, -⟩
    cases hcrash : memory.crash? (max size 1) with
    | none => rfl
    | some crash => cases (hstream.unique (hbreaks crash hcrash)).1
  · intro hroom
    obtain ⟨r, hr⟩ : ∃ r, Streamed.ofCursor s.sql size consumer [] [] 0 cursor = r := ⟨_, rfl⟩
    exact ⟨r, yields_stream hs hi ho memory size consumer hroom (hcursor ▸ hr),
      handsOver_ofCursor hs hi ho hcursor size consumer hr⟩

def allUsers : Query := (Query.empty .mysql (some "main")).table "users"

def fiveRecords : List Record := (List.range 5).map fun n : Nat => [("id", .int n)]

/-- Five users that wait to be read. -/
def fiveUsers : Database ScriptedPool where
  configs := [("main", .ofParts "main" .mysql "localhost" "app")]
  backends := []
  opened := [⟨"main", .mysql, ScriptedPool.new.push (.rows fiveRecords)⟩]
  registry := [("main", 0)]

/-- A machine with blocks of at most a gibibyte. -/
def smallMachine : Memory where
  recordSize := 72
  recordSize_pos := by decide
  hasBlock bytes := bytes ≤ 1073741824

/-- In pairs the last of them is handed over alone. -/
theorem allUsers_in_pairs : ∃ r db' db'',
    (allUsers.stream smallMachine 2 fun _ => .ok true).Yields fiveUsers (.ok r) db' ∧
    r.outcome = .ok 5 ∧ (∃ d ∈ r.deliveries, d.batch.length < 2) ∧
    allUsers.fetch.Yields fiveUsers (Streamed.batches r.deliveries).flatten db'' := by
  obtain ⟨s, hs⟩ : ∃ s, allUsers.selectStatement = .ok s := ⟨_, rfl⟩
  have hpool : allUsers.pool.Yields fiveUsers 0 fiveUsers := rfl
  have hcursor : (ScriptedPool.cursorOf (some (.rows fiveRecords))) =
      (fiveRecords.map Row.ofRecord).map .ok := rfl
  have hroom : 2 * 72 ≤ Memory.greatestBlock ∧ smallMachine.hasBlock (2 * 72) := by decide
  obtain ⟨r, hstream, hdelivers, -, hfetch⟩ :=
    (stream_hands_over_iff hs hpool rfl hcursor smallMachine 2 fun _ => .ok true).1.mpr hroom
  have hcount : (Streamed.records ((fiveRecords.map Row.ofRecord).map .ok)).length = 5 := rfl
  have hgoes : Streamed.GoesOn 2 (fun _ => .ok true) r.deliveries := fun _ _ _ _ _ => rfl
  obtain ⟨-, -, houtcome⟩ := hdelivers.ended rfl hgoes
  have htrailing := hdelivers.trailing.mpr ⟨rfl, hgoes, by rw [hcount]; decide⟩
  obtain ⟨db'', hfetched⟩ := hfetch ScriptedPool.readsAlike (fun _ => rfl) rfl
  rw [hcount] at houtcome
  exact ⟨r, _, db'', hstream, houtcome, htrailing, hfetched⟩

/-- No machine has room for batches of every size that 64 bits can count. -/
theorem five_rows_may_have_no_room : ¬ ∃ memory : Memory, ∀ size < UInt64.size, ∃ r db' db'',
    (allUsers.stream memory size fun _ => .ok true).Yields fiveUsers (.ok r) db' ∧
    allUsers.fetch.Yields fiveUsers (Streamed.batches r.deliveries).flatten db'' := by
  rintro ⟨memory, h⟩
  obtain ⟨r, db', -, hstream, -⟩ := h (UInt64.size - 1) (by decide)
  obtain ⟨s, hs⟩ : ∃ s, allUsers.selectStatement = .ok s := ⟨_, rfl⟩
  have hpool : allUsers.pool.Yields fiveUsers 0 fiveUsers := rfl
  have hlarge : Memory.greatestBlock < max (UInt64.size - 1) 1 := by decide
  have hcrash := yields_stream_of_crash hs hpool rfl memory (UInt64.size - 1) (fun _ => .ok true)
    (memory.crash?_of_greatestBlock_lt hlarge)
  cases (hstream.unique hcrash).1

end Query
end SqlRecords
