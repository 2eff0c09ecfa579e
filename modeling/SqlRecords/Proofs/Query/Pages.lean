import SqlRecords.Proofs.Query.Counting
import SqlRecords.Proofs.Session.Sending
import SqlRecords.Pool.Scripted

/-! Pages of the same query, asked for one after another. A page stays on the query, so the next
count is of that page. -/
namespace SqlRecords

namespace Query

/-- What a page adds to the SELECT that is counted. -/
def sliceText (q : Query) (perPage page : Nat) : String :=
  orderText q.pageOrder ++ q.dialect.pagingClause (some perPage) (some (pageOffset perPage page))
    (!q.pageOrder.isEmpty)

theorem clauses_forPage {q : Query} (hlimit : q.limit = none) (hoffset : q.offset = none)
    {d : Dialect} {c : Clauses} (h : q.clauses d .counted = .ok c) (perPage page : Nat) :
    c.orderBy = [] ∧ c.paging = "" ∧
    (q.forPage perPage page).clauses d .counted = .ok { c with
      orderBy := q.pageOrder
      paging := q.dialect.pagingClause (some perPage) (some (pageOffset perPage page))
        (!q.pageOrder.isEmpty) } := by
  obtain ⟨source, scores, sourceSql, joinSqls, lexemes, hsource, hw, hs, hj, hl, rfl⟩ :=
    clauses_eq_ok_iff.mp h
  have hunpaged : q.orderAt .counted = [] := by
    rw [orderAt, hlimit, hoffset]
    rfl
  refine ⟨hunpaged, ?_, clauses_eq_ok_iff.mpr
    ⟨source, scores, sourceSql, joinSqls, lexemes, hsource, hw, hs, hj, hl, rfl⟩⟩
  dsimp only
  rw [hlimit, hoffset]
  exact Dialect.pagingClause_unpaged _ _

/-- The count of a page is the count of the query with the slice inside. -/
theorem countStatement_forPage {q : Query} (hlimit : q.limit = none) (hoffset : q.offset = none)
    {s : Statement} (h : q.countStatement = .ok s) (perPage page : Nat) :
    ∃ inner, s.sql = countText inner ∧
      (q.forPage perPage page).countStatement =
        .ok { s with sql := countText (inner ++ q.sliceText perPage page) } := by
  cases hc : q.clauses q.dialect .counted with
  | error e =>
    rw [countStatement, countDraft, hc] at h
    cases h
  | ok c =>
    obtain ⟨horder, hpaging, hpage⟩ := clauses_forPage hlimit hoffset hc perPage page
    have hcount := countStatement_of_clauses (q := q.forPage perPage page) hpage
    rw [countStatement_of_clauses hc] at h
    cases Except.ok.inj h
    refine ⟨c.body.render q.dialect, ?_, hcount⟩
    rw [horder, hpaging]
    show countText (_ ++ ("" ++ "")) = _
    rw [String.append_empty, String.append_empty]

/-- A slice is never empty. -/
theorem sliceText_ne (q : Query) (perPage page : Nat) : q.sliceText perPage page ≠ "" := by
  unfold sliceText Dialect.pagingClause
  cases q.dialect <;> simp

/-- A page is counted by another text. -/
theorem countText_slice_ne (q : Query) (inner : String) (perPage page : Nat) :
    countText (inner ++ q.sliceText perPage page) ≠ countText inner := by
  have hinside (front slice back : String) (h : front ++ (inner ++ slice) ++ back =
      front ++ inner ++ back) : slice = "" := by
    have hlength := congrArg String.length h
    simp only [String.length_append] at hlength
    exact String.length_eq_zero_iff.mp (by omega)
  exact fun h => q.sliceText_ne perPage page (hinside _ _ _ h)

section
variable {π : Type} [Pool π]
open Session

theorem mirrors_count (q : Query) : Mirrors (π := π) id q.count q.count := by
  refine mirrors_bind (mirrors_ofExcept _) fun s => ?_
  exact mirrors_bind (q.mirrors_rowsOf s) fun _ => mirrors_pure id _

theorem mirrors_paginate (q : Query) (perPage page : Nat) :
    Mirrors (π := π) id (q.paginate perPage page) (q.paginate perPage page) :=
  mirrors_bind q.mirrors_count fun _ => mirrors_pure id _

/-- A page sends the count of the query as it stands. -/
theorem sendsOnce_paginate {q : Query} {s : Statement} (h : q.countStatement = .ok s)
    (perPage page : Nat) : SendsOnce (π := π) s (q.paginate perPage page) := by
  have hcount : (q.count : Session (Recorded π) Nat) = q.countOf s := by
    rw [count, h]
    rfl
  rw [paginate, hcount]
  exact ((q.sendsOnce_rowsOf s).bind fun _ => sendsNothing_pure _).bind fun _ =>
    sendsNothing_pure _

/-- A query that cannot be written is not counted. -/
theorem paginate_incomplete {q : Query} {e : Incomplete} (h : q.countStatement = .error e)
    (perPage page : Nat) (db : Database π) :
    (q.paginate perPage page).run.run db = (.error e.failure, db) := by
  rw [paginate, count, h]
  rfl

/-- The query that a page leaves behind. -/
theorem query_of_paginate {q q' : Query} {perPage page : Nat} {p : Pagination}
    {db db' : Database π} (h : (q.paginate perPage page).Yields db (p, q') db') :
    q' = q.forPage perPage page := by
  obtain ⟨total, mid, -, h⟩ := yields_bind.mp h
  obtain ⟨heq, -⟩ := yields_pure.mp h
  exact (congrArg Prod.snd heq).symm

end

/-- A query from which pages are asked for one after another, with the pages that it gave. -/
structure Paging (π : Type) where
  query : Query
  given : List (Nat × Nat)
  database : Database π

namespace Paging
variable {π : Type} [Pool π]

/-- What a call for a page leaves. If the page fails the query stays as it is. -/
def after (p : Paging π) (call : Nat × Nat) :
    Except Failure (Pagination × Query) × Database π → Paging π
  | (.ok (_, q), db) => ⟨q, p.given ++ [call], db⟩
  | (.error _, db) => { p with database := db }

def ask (p : Paging π) (call : Nat × Nat) : Paging π :=
  p.after call ((p.query.paginate call.1 call.2).run.run p.database)

def forget (p : Paging (Recorded π)) : Paging π := ⟨p.query, p.given, p.database.forget⟩

theorem forget_ask (p : Paging (Recorded π)) (call : Nat × Nat) :
    (p.ask call).forget = p.forget.ask call := by
  have hmirrors := p.query.mirrors_paginate call.1 call.2 p.database
  unfold ask
  refine Eq.trans ?_ (congrArg (p.forget.after call) hmirrors.symm)
  cases (p.query.paginate call.1 call.2).run.run p.database with
  | mk outcome db => cases outcome <;> rfl

theorem forget_foldl_ask (p : Paging (Recorded π)) (calls : List (Nat × Nat)) :
    (calls.foldl ask p).forget = calls.foldl ask p.forget := by
  induction calls generalizing p with
  | nil => rfl
  | cons call rest ih => rw [List.foldl_cons, List.foldl_cons, ih, forget_ask]

/-- The query restricted to the page that was given last. -/
def lastPage (q : Query) (given : List (Nat × Nat)) : Query :=
  given.getLast?.elim q fun (perPage, page) => q.forPage perPage page

theorem forPage_lastPage (q : Query) (given : List (Nat × Nat)) (call : Nat × Nat) :
    (lastPage q given).forPage call.1 call.2 = lastPage q (given ++ [call]) := by
  rw [lastPage, lastPage, List.getLast?_concat]
  cases given.getLast? <;> rfl

/-- A call for a page sends the count of the query as it stands, or it fails and sends nothing. -/
theorem ask_sends (p : Paging (Recorded π)) (hfresh : p.database.IsFresh) (call : Nat × Nat) :
    ∃ sent, p.database.Sends sent (p.ask call).database ∧
      (sent = [] ∧ (p.ask call).given = p.given ∨
        ∃ i s, sent = [⟨i, s⟩] ∧ p.query.countStatement = .ok s) := by
  unfold ask
  cases hs : p.query.countStatement with
  | error e =>
    rw [paginate_incomplete hs]
    exact ⟨[], .refl _, .inl ⟨rfl, rfl⟩⟩
  | ok s =>
    have honce := sendsOnce_paginate hs call.1 call.2 p.database hfresh
    cases hrun : (p.query.paginate call.1 call.2).run.run p.database with
    | mk outcome db =>
      rw [hrun] at honce
      obtain ⟨i, hsent⟩ | ⟨hsent, f, hf⟩ := honce
      · refine ⟨_, ?_, .inr ⟨i, s, rfl, rfl⟩⟩
        cases outcome <;> exact hsent
      · cases hf
        exact ⟨_, hsent, .inl ⟨rfl, rfl⟩⟩

/-- A call leaves the query on the page that was given last. -/
theorem ask_query {q : Query} {p : Paging π} (h : p.query = lastPage q p.given)
    (call : Nat × Nat) : (p.ask call).query = lastPage q (p.ask call).given := by
  unfold ask
  cases hrun : (p.query.paginate call.1 call.2).run.run p.database with
  | mk outcome db =>
    cases outcome with
    | error f => exact h
    | ok result =>
      have hquery := query_of_paginate hrun
      rw [h, forPage_lastPage] at hquery
      exact hquery

/-- After any calls the query is on the page that was given last, and pools are opened as before. -/
theorem foldl_ask {q : Query} {p : Paging (Recorded π)} (hquery : p.query = lastPage q p.given)
    (hfresh : p.database.IsFresh) (calls : List (Nat × Nat)) :
    (calls.foldl ask p).query = lastPage q (calls.foldl ask p).given ∧
      (calls.foldl ask p).database.IsFresh := by
  induction calls generalizing p with
  | nil => exact ⟨hquery, hfresh⟩
  | cons call rest ih =>
    obtain ⟨sent, hsends, -⟩ := ask_sends p hfresh call
    exact ih (ask_query hquery call) (hsends.isFresh hfresh)

/-- Pages are asked for one after another from a query without limit and offset. Each call counts
the query as the page given last has left it: all rows at first, and then only those of that page,
by a text that holds its limit and offset. -/
theorem pages_count_last_page (q : Query) (hlimit : q.limit = none) (hoffset : q.offset = none)
    (db : Database π) (calls : List (Nat × Nat)) :
    let run := calls.foldl ask ⟨q, [], db.recording⟩
    run.forget = calls.foldl ask ⟨q, [], db⟩ ∧
    run.query = lastPage q run.given ∧
    (∀ call, ∃ sent, run.database.Sends sent (run.ask call).database ∧
      (sent = [] ∧ (run.ask call).given = run.given ∨
        ∃ i s, sent = [⟨i, s⟩] ∧ run.query.countStatement = .ok s)) ∧
    ∀ s perPage page, q.countStatement = .ok s → run.given.getLast? = some (perPage, page) →
      ∃ inner, s.sql = countText inner ∧
        run.query.countStatement =
          .ok { s with sql := countText (inner ++ q.sliceText perPage page) } ∧
        countText (inner ++ q.sliceText perPage page) ≠ s.sql := by
  intro run
  have hstart : Paging.query (⟨q, [], db.recording⟩ : Paging (Recorded π)) = lastPage q [] := rfl
  obtain ⟨hquery, hfresh⟩ := foldl_ask hstart db.isFresh_recording calls
  refine ⟨?_, hquery, ask_sends run hfresh, ?_⟩
  · rw [forget_foldl_ask, forget, Database.forget_recording]
  · intro s perPage page hs hgiven
    obtain ⟨inner, hinner, hpage⟩ := countStatement_forPage hlimit hoffset hs perPage page
    have hlast : run.query = q.forPage perPage page := by
      rw [hquery, lastPage, hgiven]
      rfl
    refine ⟨inner, hinner, hlast ▸ hpage, ?_⟩
    rw [hinner]
    exact q.countText_slice_ne inner perPage page

def usersById : Query := ((empty .mysql (some "main")).table "users").order "id" .ascending

/-- Five users are counted, and then the two of the first page. -/
def usersDatabase : Database ScriptedPool where
  configs := [("main", .ofParts "main" .mysql "localhost" "app")]
  backends := []
  opened := [⟨"main", .mysql, { ScriptedPool.new with responses :=
    [.rows [[("total", .int 5)]], .rows [[("total", .int 2)]]] }⟩]
  registry := [("main", 0)]

/-- The second page sends the count of the first. -/
theorem usersById_counts_first_page : usersById.limit = none ∧ usersById.offset = none ∧
    let run := [(2, 1)].foldl ask ⟨usersById, [], usersDatabase.recording⟩
    run.given = [(2, 1)] ∧ run.query = usersById.forPage 2 1 ∧
    ∃ i s, run.database.Sends [⟨i, s⟩] (run.ask (2, 2)).database ∧
      (usersById.forPage 2 1).countStatement = .ok s := by
  refine ⟨rfl, rfl, ?_⟩
  intro run
  have hgiven : run.given = [(2, 1)] := by decide +kernel
  have hnext : (run.ask (2, 2)).given = [(2, 1), (2, 2)] := by decide +kernel
  obtain ⟨-, hquery, hsends, -⟩ :=
    pages_count_last_page usersById rfl rfl usersDatabase [(2, 1)]
  have hlast : run.query = usersById.forPage 2 1 := by
    rw [hquery, show (List.foldl ask _ _).given = [(2, 1)] from hgiven]
    rfl
  refine ⟨hgiven, hlast, ?_⟩
  obtain ⟨sent, hsent, ⟨-, hsame⟩ | ⟨i, s, rfl, hs⟩⟩ := hsends (2, 2)
  · cases hnext.symm.trans (hsame.trans hgiven)
  · exact ⟨i, s, hsent, hlast ▸ hs⟩

/-- So not every page counts what the query alone gives. -/
theorem pages_may_count_less : ¬ ∀ (q : Query) (db : Database ScriptedPool)
    (calls : List (Nat × Nat)), q.limit = none → q.offset = none → db.backends = [] →
      (∀ o ∈ db.opened, o.pool.received = []) →
      ∀ o ∈ (calls.foldl ask ⟨q, [], db⟩).database.opened, ∀ s ∈ o.pool.received,
        q.countStatement = .ok s := by
  intro h
  have hall := h usersById usersDatabase [(2, 1), (2, 2)] rfl rfl rfl
    (by simp [usersDatabase, ScriptedPool.new])
  have hsent : (([(2, 1), (2, 2)].foldl ask ⟨usersById, [], usersDatabase⟩).database.opened.flatMap
      (·.pool.received)).map (·.sql) =
      ["SELECT COUNT(*) AS total FROM (SELECT * FROM users) AS count_sql",
        "SELECT COUNT(*) AS total FROM (SELECT * FROM users ORDER BY id ASC LIMIT 2 OFFSET 0) AS "
          ++ "count_sql"] := by decide +kernel
  have hcount : usersById.countStatement.toOption.map (·.sql) =
      some "SELECT COUNT(*) AS total FROM (SELECT * FROM users) AS count_sql" := by decide +kernel
  obtain ⟨s, hs, htext⟩ := List.mem_map.mp (hsent ▸ List.mem_cons_of_mem _ List.mem_cons_self)
  obtain ⟨o, ho, hs⟩ := List.mem_flatMap.mp hs
  have hsame := hall o ho s hs
  rw [hsame] at hcount
  have htexts := htext.symm.trans (Option.some.inj hcount)
  revert htexts
  decide +kernel

end Paging
end Query
end SqlRecords
