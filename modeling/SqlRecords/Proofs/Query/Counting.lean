import SqlRecords.Proofs.Query.Clauses

/-! Counting the rows of a SELECT. The count encloses the SELECT, without its order where no page is
cut from it. -/
namespace SqlRecords

theorem Dialect.pagingClause_unpaged (d : Dialect) (ordered : Bool) :
    d.pagingClause none none ordered = "" := by
  cases d <;> rfl

namespace Query

/-- The text of a count of the rows of a SELECT. -/
def countText (inner : String) : String :=
  "SELECT COUNT(*) AS total FROM (" ++ inner ++ ") AS count_sql"

/-- The text around the SELECT binds nothing, so the SELECT is numbered as by itself. -/
theorem countStatement_eq (q : Query) :
    q.countStatement = (q.clauses q.dialect .counted).map fun c =>
      .ofText q.dialect .select
        (countText (c.body.render q.dialect ++ (orderText c.orderBy ++ c.paging)))
        c.body.params := by
  unfold countStatement countDraft finish
  cases q.clauses q.dialect .counted with
  | error e => rfl
  | ok c =>
    simp only [Except.map, Statement.ofDraft, Statement.ofSql, Sql.render, Sql.renderAfter_append,
      Sql.renderAfter_ofText, Sql.params_append, Sql.params_ofText, List.nil_append,
      List.append_nil, List.length_nil, c.renderAfter_sql, c.params_sql]
    rfl

theorem countStatement_of_clauses {q : Query} {c : Clauses}
    (h : q.clauses q.dialect .counted = .ok c) :
    q.countStatement = .ok (.ofText q.dialect .select
      (countText (c.body.render q.dialect ++ (orderText c.orderBy ++ c.paging)))
      c.body.params) := by
  rw [countStatement_eq, h]
  rfl

/-- A count keeps a page with its order, and of a SELECT without a page it drops the order. -/
theorem endText_outermost (q : Query) :
    q.endText .outermost = q.endText .counted
      ++ if q.limit.isSome || q.offset.isSome then "" else orderText q.pageOrder := by
  unfold endText orderAt
  cases hpaged : q.limit.isSome || q.offset.isSome with
  | true => exact String.append_empty.symm
  | false =>
    obtain ⟨hlimit, hoffset⟩ := Bool.or_eq_false_iff.mp hpaged
    rw [Option.isSome_eq_false_iff, Option.isNone_iff_eq_none] at hlimit hoffset
    simp [Place.keepsOrder, hlimit, hoffset, Dialect.pagingClause_unpaged, orderText]

/-- A count fails as the SELECT does. Else it has the parameters of the SELECT, and it encloses the
whole text of a page, and all but the final order of a SELECT that is not paged. -/
theorem count_encloses_select (q : Query) :
    (∀ e, q.countStatement = .error e ↔ q.selectStatement = .error e) ∧
    ∀ s, q.selectStatement = .ok s → ∃ inner,
      s.sql = inner ++ (if q.limit.isSome || q.offset.isSome then "" else orderText q.pageOrder) ∧
      q.countStatement = .ok { s with sql := countText inner } := by
  rw [countStatement_eq, selectStatement_eq, q.clauses_place q.dialect .outermost .counted]
  cases hc : q.clauses q.dialect .outermost with
  | error e =>
    constructor
    · intro e'
      exact Iff.rfl
    · intro s hs
      cases hs
  | ok c =>
    constructor
    · intro e
      constructor <;> intro h <;> cases h
    · intro s hs
      cases Except.ok.inj hs
      refine ⟨c.body.render q.dialect ++ q.endText .counted, ?_, rfl⟩
      show c.body.render q.dialect ++ (orderText c.orderBy ++ c.paging) = _
      rw [end_of_clauses hc, endText_outermost, String.append_assoc]

def latestOrders : Query :=
  { ((empty .postgres none).table "orders").order "placed" .descending with limit := some 100 }

/-- Their towns, those of members first. -/
def rankedTowns : Query :=
  { (((((empty .postgres none).from_ (.derived latestOrders "latest")).such
      (Predicate.equals "paid" (.bool true))).weigh ⟨[Predicate.equals "member" (.bool true)],
        Double.ofInt 2, .score (Double.ofInt 1)⟩).group "town").order "town" .ascending with
    distinct := true
    columns := ["town"] }

/-- Counting them drops their own order and keeps that of the page inside. -/
theorem rankedTowns_counted : ∃ s inner, rankedTowns.selectStatement = .ok s ∧
    rankedTowns.countStatement = .ok { s with sql := countText inner } ∧
    s.sql = inner ++ " ORDER BY __weight DESC, town ASC" ∧
    inner = "SELECT DISTINCT town, CASE WHEN member = $1 THEN 2 ELSE 1 END AS __weight FROM "
      ++ "(SELECT * FROM orders ORDER BY placed DESC LIMIT 100) AS latest WHERE paid = $2 "
      ++ "GROUP BY town" := by
  have htext : rankedTowns.selectStatement.toOption.map (·.sql) = some
      ("SELECT DISTINCT town, CASE WHEN member = $1 THEN 2 ELSE 1 END AS __weight FROM "
        ++ "(SELECT * FROM orders ORDER BY placed DESC LIMIT 100) AS latest WHERE paid = $2 "
        ++ "GROUP BY town" ++ " ORDER BY __weight DESC, town ASC") := by
    decide +kernel
  have horder : orderText rankedTowns.pageOrder = " ORDER BY __weight DESC, town ASC" := by
    decide +kernel
  obtain ⟨s, hs⟩ : ∃ s, rankedTowns.selectStatement = .ok s := ⟨_, rfl⟩
  obtain ⟨inner, hsql, hcount⟩ := (count_encloses_select rankedTowns).2 s hs
  have hunpaged : (rankedTowns.limit.isSome || rankedTowns.offset.isSome) = false := rfl
  simp only [hunpaged, Bool.false_eq_true, if_false, horder] at hsql
  rw [hs] at htext
  have hinner := hsql.symm.trans (Option.some.inj htext)
  exact ⟨s, inner, hs, hcount, hsql, (String.append_left_inj _).mp hinner⟩

end Query
end SqlRecords
