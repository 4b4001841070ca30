import Mathlib.Data.List.Forall2
import GraphGateway.Proofs.Entries
import GraphGateway.Proofs.Outcome
import GraphGateway.Proofs.Request.Argument
import GraphGateway.Proofs.Value.Order
import GraphGateway.Statement.Matches

/-!
Tallies of matches.  The rows of a statement report paths with numbers of matches; counting them in
comes down to a map from paths to the largest number that was reported, which starts with zero for
every path that is expected.
-/
namespace GraphGateway.Statement

open Request

/-- A path and how many matches it is said to have. -/
abbrev Report := String × Nat

/-- An item of the `matches` of a row that is a report. -/
def IsReport (item : Value) (report : Report) : Prop :=
  ∃ entries, item = .object entries ∧ Entries.get? entries "path" = some (.text report.1) ∧
    Entries.get? entries "matched" = some (.int report.2)

/-- A row and what it reports; a row without `matches` reports nothing. -/
def RowReports (row : Value) (reports : List Report) : Prop :=
  ∃ entries items, row = .object entries ∧
    itemsOf ((Entries.get? entries "matches").getD .null) = .ok items ∧
    List.Forall₂ IsReport items reports

/-- The rows of a statement and all that they report, row after row. -/
def RowsReport (rows : Value) (reports : List Report) : Prop :=
  ∃ items perRow, rows = .list items ∧ List.Forall₂ RowReports items perRow ∧
    reports = perRow.flatten

/-- Whether some report has a match of a path. -/
def matchedIn (reports : List Report) (path : String) : Bool :=
  reports.any fun report => report.1 = path && 0 < report.2

theorem matchedIn_iff (reports : List Report) (path : String) :
    matchedIn reports path = true ↔ ∃ matched, 0 < matched ∧ (path, matched) ∈ reports := by
  simp only [matchedIn, List.any_eq_true, Bool.and_eq_true, decide_eq_true_eq]
  constructor
  · rintro ⟨⟨other, matched⟩, member, rfl, positive⟩
    exact ⟨matched, positive, member⟩
  · rintro ⟨matched, positive, member⟩
    exact ⟨(path, matched), member, rfl, positive⟩

namespace Tally

/-- The tally with which counting starts. -/
def expecting (paths : List String) : Entries Nat :=
  paths.foldl (fun tally path => tally.put path 0) []

/-- Counts one report in. -/
def count (tally : Entries Nat) (report : Report) : Entries Nat :=
  tally.put report.1 (max ((tally.get? report.1).getD 0) report.2)

/-- The paths that have no match. -/
def missing (tally : Entries Nat) : List String :=
  (tally.filter fun entry => entry.2 = 0).map Prod.fst

theorem get?_count (tally : Entries Nat) (report : Report) (path : String) :
    (count tally report).get? path =
      if report.1 = path then some (max ((tally.get? path).getD 0) report.2)
      else tally.get? path := by
  unfold count
  rw [Entries.get?_put]
  split
  · next same => rw [same]
  · rfl

/-- A path stands at zero behind some reports if it stood there or nowhere before them, and none of
them has a match of it. -/
theorem get?_foldl_count (reports : List Report) (tally : Entries Nat) (path : String) :
    (reports.foldl count tally).get? path = some 0 ↔
      matchedIn reports path = false ∧
        (tally.get? path = some 0 ∨ tally.get? path = none ∧ path ∈ reports.map Prod.fst) := by
  induction reports generalizing tally with
  | nil => simp [matchedIn]
  | cons report rest ih =>
      obtain ⟨other, matched⟩ := report
      rw [List.foldl_cons, ih, get?_count]
      by_cases same : other = path
      · subst same
        rcases before : tally.get? other with _ | old
        · rcases Nat.eq_zero_or_pos matched with rfl | positive
          · simp [matchedIn]
          · simp [matchedIn, positive, Nat.ne_of_gt positive]
        · rcases Nat.eq_zero_or_pos matched with rfl | positive
          · simp [matchedIn]
          · simp [matchedIn, positive, Nat.ne_of_gt positive]
      · simp [matchedIn, same, Ne.symm same]

/-- Where only paths of the tally are reported, they stay in their places. -/
theorem keys_foldl_count (reports : List Report) (tally : Entries Nat)
    (known : ∀ report ∈ reports, report.1 ∈ tally.keys) :
    (reports.foldl count tally).keys = tally.keys := by
  induction reports generalizing tally with
  | nil => rfl
  | cons report rest ih =>
      have kept : (count tally report).keys = tally.keys := by
        unfold count
        rw [Entries.keys_put, if_pos (known report (List.mem_cons_self ..))]
      rw [List.foldl_cons, ih _ fun other member => by
        rw [kept]
        exact known other (List.mem_cons_of_mem _ member), kept]

theorem keys_foldl_count_nodup (reports : List Report) (tally : Entries Nat)
    (distinct : tally.keys.Nodup) : (reports.foldl count tally).keys.Nodup := by
  induction reports generalizing tally with
  | nil => exact distinct
  | cons report rest ih => exact ih _ (Entries.keys_put_nodup _ _ _ distinct)

theorem missing_eq_filter (tally : Entries Nat) (distinct : tally.keys.Nodup) :
    missing tally = tally.keys.filter fun path => tally.get? path = some 0 := by
  unfold missing Entries.keys
  rw [List.filter_map]
  congr 1
  apply List.filter_congr
  intro entry member
  obtain ⟨path, matched⟩ := entry
  have found := Entries.get?_eq_some_of_mem distinct member
  simp [found]

theorem get?_expecting (paths : List String) (tally : Entries Nat) (path : String) :
    (paths.foldl (fun tally path => tally.put path 0) tally).get? path =
      if path ∈ paths then some 0 else tally.get? path := by
  induction paths generalizing tally with
  | nil => simp
  | cons first rest ih =>
      rw [List.foldl_cons, ih, Entries.get?_put]
      by_cases inside : path ∈ rest
      · simp [inside]
      · by_cases same : first = path
        · simp [same]
        · simp [inside, same, Ne.symm same]

theorem keys_expecting_nodup (paths : List String) (tally : Entries Nat)
    (distinct : tally.keys.Nodup) :
    (paths.foldl (fun tally path => tally.put path 0) tally).keys.Nodup := by
  induction paths generalizing tally with
  | nil => exact distinct
  | cons first rest ih => exact ih _ (Entries.keys_put_nodup _ _ _ distinct)

/-- A search meets the expected paths in the order in which they were given. -/
theorem find?_keys_expecting (paths : List String) (tally : Entries Nat) (wanted : String → Bool) :
    (paths.foldl (fun tally path => tally.put path 0) tally).keys.find? wanted =
      (tally.keys ++ paths).find? wanted := by
  induction paths generalizing tally with
  | nil => rw [List.append_nil]; rfl
  | cons first rest ih =>
      rw [List.foldl_cons, ih, Entries.keys_put]
      split
      · next inside =>
          rw [List.find?_append, List.find?_append, List.find?_cons]
          cases holds : wanted first with
          | false => rfl
          | true =>
              have found : (tally.keys.find? wanted).isSome :=
                List.find?_isSome.mpr ⟨first, inside, holds⟩
              obtain ⟨path, same⟩ := Option.isSome_iff_exists.mp found
              rw [same]
              rfl
      · rw [List.append_assoc, List.singleton_append]

/-- The first path without a match is the first one expected that no report has a match of, if
nothing else is reported. -/
theorem head?_missing (paths : List String) (reports : List Report)
    (known : ∀ report ∈ reports, report.1 ∈ paths) :
    (missing (reports.foldl count (expecting paths))).head? =
      paths.find? fun path => !matchedIn reports path := by
  have expected (path : String) : (expecting paths).get? path = some 0 ↔ path ∈ paths := by
    unfold expecting
    rw [get?_expecting]
    simp
  have kept : (reports.foldl count (expecting paths)).keys = (expecting paths).keys :=
    keys_foldl_count _ _ fun report member => by
      rw [← Entries.get?_isSome_iff, (expected _).mpr (known report member)]
      rfl
  have distinct : (expecting paths).keys.Nodup := keys_expecting_nodup paths [] List.nodup_nil
  rw [missing_eq_filter _ (by rw [kept]; exact distinct), kept, List.head?_filter]
  calc (expecting paths).keys.find? (fun path =>
          decide ((reports.foldl count (expecting paths)).get? path = some 0))
      = paths.find? (fun path =>
          decide ((reports.foldl count (expecting paths)).get? path = some 0)) :=
        find?_keys_expecting paths [] _
    _ = paths.find? fun path => !matchedIn reports path := by
        rw [← List.head?_filter, ← List.head?_filter]
        congr 1
        apply List.filter_congr
        intro path inside
        rw [Bool.eq_iff_iff, decide_eq_true_eq, get?_foldl_count, expected]
        simp [inside]

/-- The tally as the counts that the gateway keeps. -/
def counts (tally : Entries Nat) : Counts :=
  tally.map fun entry => (.text entry.1, .int entry.2)

theorem counts_get? (tally : Entries Nat) (path : String) :
    (counts tally).get? (.text path) = (tally.get? path).map fun matched => .int matched := by
  induction tally with
  | nil => rfl
  | cons entry rest ih =>
      obtain ⟨other, matched⟩ := entry
      simp only [Counts.get?] at ih
      by_cases same : other = path
      · simp [counts, Counts.get?, Entries.get?_cons, Value.same, same]
      · simpa [counts, Counts.get?, Entries.get?_cons, Value.same, same] using ih

theorem counts_put (tally : Entries Nat) (path : String) (matched : Nat) :
    (counts tally).put (.text path) (.int matched) = counts (tally.put path matched) := by
  induction tally with
  | nil => rfl
  | cons entry rest ih =>
      obtain ⟨other, old⟩ := entry
      by_cases same : other = path
      · simp [counts, Counts.put, Entries.put, Value.same, same]
      · simpa [counts, Counts.put, Entries.put, Value.same, same] using ih

theorem counts_expecting (paths : List String) (tally : Entries Nat) :
    (paths.map Value.text).foldl (fun found path => Counts.put found path (.int 0))
      (counts tally) =
      counts (paths.foldl (fun tally path => tally.put path 0) tally) := by
  induction paths generalizing tally with
  | nil => rfl
  | cons first rest ih =>
      have put : Counts.put (counts tally) (.text first) (.int 0) = counts (tally.put first 0) :=
        counts_put tally first 0
      rw [List.map_cons, List.foldl_cons, put, ih, List.foldl_cons]

theorem counts_filter_isZero (tally : Entries Nat) :
    ((counts tally).filter fun entry => entry.2.isZero).map Prod.fst =
      (missing tally).map Value.text := by
  unfold counts missing
  rw [List.filter_map, List.map_map, List.map_map]
  congr 1
  apply List.filter_congr
  intro entry member
  change ((entry.2 : Int) == 0) = decide (entry.2 = 0)
  rw [Bool.eq_iff_iff]
  simp

end Tally

theorem larger_nat (first second : Nat) :
    larger (.int first) (.int second) = .ok (.int (max first second : Nat)) := by
  have order : (Value.int first).less? (.int second) = some (decide (first < second)) := by
    rw [Value.less?_int]
    simp
  unfold larger
  rw [order]
  by_cases less : first < second
  · simp [less, Nat.max_eq_right (Nat.le_of_lt less)]
  · simp [less, Nat.max_eq_left (Nat.le_of_not_lt less)]

theorem countReport_eq (tally : Entries Nat) {item : Value} {report : Report}
    (reported : IsReport item report) :
    countReport (Tally.counts tally) item = .ok (Tally.counts (Tally.count tally report)) := by
  obtain ⟨entries, rfl, path, matched⟩ := reported
  have before : ((Tally.counts tally).get? (.text report.1)).getD (.int 0) =
      .int ((tally.get? report.1).getD 0 : Nat) := by
    rw [Tally.counts_get?]
    cases tally.get? report.1 <;> rfl
  unfold countReport
  simp only [entryAt, path, matched, pathKey, Value.isKey, before, larger_nat, bind, Except.bind,
    ↓reduceIte, pure, Except.pure]
  rw [Tally.counts_put]
  rfl

theorem foldlM_countReport (tally : Entries Nat) {items : List Value} {reports : List Report}
    (reported : List.Forall₂ IsReport items reports) :
    items.foldlM countReport (Tally.counts tally) =
      .ok (Tally.counts (reports.foldl Tally.count tally)) := by
  induction reported generalizing tally with
  | nil => rfl
  | cons first rest ih =>
      rw [List.foldlM_cons, countReport_eq tally first]
      exact ih _

theorem foldlM_countRow (tally : Entries Nat) {rows : List Value} {perRow : List (List Report)}
    (reported : List.Forall₂ RowReports rows perRow) :
    rows.foldlM countRow (Tally.counts tally) =
      .ok (Tally.counts (perRow.flatten.foldl Tally.count tally)) := by
  induction reported generalizing tally with
  | nil => rfl
  | cons first rest ih =>
      obtain ⟨entries, items, rfl, taken, reports⟩ := first
      have counted := foldlM_countReport tally reports
      have row : countRow (Tally.counts tally) (.object entries) =
          items.foldlM countReport (Tally.counts tally) := by
        simp only [countRow, entryOrNull, bind, Except.bind, taken]
      rw [List.foldlM_cons, row, counted, List.flatten_cons, List.foldl_append]
      exact ih _

theorem mapM_pathKey (paths : List String) :
    (paths.map Value.text).mapM pathKey = Except.ok (paths.map Value.text) := by
  induction paths with
  | nil => rfl
  | cons first rest ih =>
      rw [List.map_cons, List.mapM_cons, ih]
      rfl

/-- The paths without a match are those that the tally of all reports has at zero. -/
theorem unmatched_eq {rows : Value} {reports : List Report} (paths : List String)
    (reported : RowsReport rows reports) :
    unmatched rows (paths.map .text) =
      .ok ((Tally.missing (reports.foldl Tally.count (Tally.expecting paths))).map .text) := by
  obtain ⟨items, perRow, rfl, each, rfl⟩ := reported
  have start := Tally.counts_expecting paths []
  have counted := foldlM_countRow (Tally.expecting paths) each
  change (paths.map Value.text).foldl (fun found path => Counts.put found path (.int 0)) [] =
    Tally.counts (Tally.expecting paths) at start
  unfold unmatched
  rw [mapM_pathKey]
  change ((items.foldlM countRow ((paths.map Value.text).foldl
    (fun found path => Counts.put found path (.int 0)) [])) >>= _) = _
  rw [start, counted, ← Tally.counts_filter_isZero]
  rfl

/-- A statement that requires matches refuses its rows for the first of its paths that has none. -/
theorem verify_eq {statement : Compiled} {rows : Value} {reports : List Report}
    (requires : statement.requireMatch = true) (reported : RowsReport rows reports)
    (known : ∀ report ∈ reports, report.1 ∈ statement.paths) :
    statement.verify rows =
      match statement.paths.find? fun path => !matchedIn reports path with
      | some path => .error (.fault (.notFound (.text path) none))
      | none => .ok () := by
  unfold Compiled.verify Compiled.unmatched
  rw [requires, unmatched_eq _ reported, ← Tally.head?_missing _ _ known]
  cases Tally.missing (reports.foldl Tally.count (Tally.expecting statement.paths)) <;> rfl

end GraphGateway.Statement

/-!
The paths without a match, told from the reports alone.  Each path that is expected or reported is
told once if no report has a match of it: those that are expected come first, in their order, and
the others in the order in which they are first reported.  Where nothing else than what is expected
is reported, the order of the reports does not matter, and further rows only take paths away.
-/
namespace GraphGateway.Statement

namespace Tally

/-- New paths go behind those that are there, each where it is first met. -/
theorem foldl_known (paths known : List String) :
    paths.foldl (fun known path => if path ∈ known then known else known ++ [path]) known =
      known ++ (paths.filter (· ∉ known)).eraseDups := by
  induction paths generalizing known with
  | nil => exact (List.append_nil known).symm
  | cons path rest ih =>
      rw [List.foldl_cons]
      by_cases inside : path ∈ known
      · rw [if_pos inside, ih, List.filter_cons_of_neg (by simpa using inside)]
      · have others : rest.filter (· ∉ known ++ [path]) =
            (rest.filter (· ∉ known)).filter fun other => !other == path := by
          rw [List.filter_filter]
          apply List.filter_congr
          intro other _
          rw [Bool.eq_iff_iff]
          simp [and_comm]
        rw [if_neg inside, ih, others, List.filter_cons_of_pos (by simpa using inside),
          List.eraseDups_cons, List.append_assoc, List.singleton_append]

theorem keys_expecting (paths : List String) : (expecting paths).keys = paths.eraseDups := by
  have folded : ∀ tally : Entries Nat,
      (paths.foldl (fun tally path => tally.put path 0) tally).keys =
        paths.foldl (fun known path => if path ∈ known then known else known ++ [path])
          tally.keys := by
    induction paths with
    | nil => exact fun _ => rfl
    | cons path rest ih =>
        intro tally
        rw [List.foldl_cons, ih, Entries.keys_put, List.foldl_cons]
  have same := (folded []).trans (foldl_known paths [])
  rwa [List.filter_eq_self.mpr fun path _ => by simp] at same

theorem keys_counted (reports : List Report) (tally : Entries Nat) :
    (reports.foldl count tally).keys =
      tally.keys ++ ((reports.map Prod.fst).filter (· ∉ tally.keys)).eraseDups := by
  rw [← foldl_known, List.foldl_map]
  induction reports generalizing tally with
  | nil => rfl
  | cons report rest ih =>
      rw [List.foldl_cons, List.foldl_cons, ih]
      unfold count
      rw [Entries.keys_put]

/-- All paths of a tally, the expected ones in front. -/
theorem keys_told (expected : List String) (reports : List Report) :
    (reports.foldl count (expecting expected)).keys =
      expected.eraseDups ++ ((reports.map Prod.fst).filter (· ∉ expected)).eraseDups := by
  rw [keys_counted, keys_expecting]
  simp only [List.mem_eraseDups]

theorem keys_told_nodup (expected : List String) (reports : List Report) :
    (reports.foldl count (expecting expected)).keys.Nodup :=
  keys_foldl_count_nodup reports _ (keys_expecting_nodup expected [] List.nodup_nil)

end Tally

/-- The paths that no report has a match of, the expected ones in front. -/
def withoutMatch (expected : List String) (reports : List Report) : List String :=
  (expected.eraseDups ++ ((reports.map Prod.fst).filter (· ∉ expected)).eraseDups).filter
    fun path => ∀ report ∈ reports, report.1 = path → report.2 = 0

section

variable {expected : List String} {reports others : List Report}

theorem not_matchedIn_iff (reports : List Report) (path : String) :
    matchedIn reports path = false ↔ ∀ report ∈ reports, report.1 = path → report.2 = 0 := by
  simp [matchedIn]

/-- Counting comes down to the paths without a match. -/
theorem missing_eq (expected : List String) (reports : List Report) :
    Tally.missing (reports.foldl Tally.count (Tally.expecting expected)) =
      withoutMatch expected reports := by
  rw [Tally.missing_eq_filter _ (Tally.keys_told_nodup expected reports), Tally.keys_told]
  apply List.filter_congr
  intro path member
  rw [Bool.eq_iff_iff, decide_eq_true_eq, decide_eq_true_eq, Tally.get?_foldl_count,
    not_matchedIn_iff, Tally.expecting, Tally.get?_expecting]
  refine and_iff_left ?_
  by_cases inside : path ∈ expected
  · exact .inl (if_pos inside)
  · right
    rw [List.mem_append, List.mem_eraseDups, List.mem_eraseDups] at member
    exact ⟨if_neg inside, List.mem_of_mem_filter (member.resolve_left inside)⟩

theorem mem_withoutMatch_iff {path : String} : path ∈ withoutMatch expected reports ↔
    (path ∈ expected ∨ path ∈ reports.map Prod.fst) ∧
      ∀ report ∈ reports, report.1 = path → report.2 = 0 := by
  unfold withoutMatch
  rw [List.mem_filter, decide_eq_true_eq, List.mem_append, List.mem_eraseDups, List.mem_eraseDups,
    List.mem_filter, decide_eq_true_eq]
  by_cases inside : path ∈ expected <;> simp [inside]

theorem withoutMatch_nodup : (withoutMatch expected reports).Nodup := by
  apply List.Nodup.filter
  rw [← Tally.keys_told]
  exact Tally.keys_told_nodup expected reports

/-- Where only expected paths are reported, no others are without a match. -/
theorem withoutMatch_of_known (known : ∀ report ∈ reports, report.1 ∈ expected) :
    withoutMatch expected reports =
      expected.eraseDups.filter fun path => ∀ report ∈ reports, report.1 = path → report.2 = 0 := by
  have none_ : (reports.map Prod.fst).filter (· ∉ expected) = [] := by
    rw [List.filter_eq_nil_iff]
    intro path member
    obtain ⟨report, inside, rfl⟩ := List.mem_map.mp member
    simpa using known report inside
  rw [withoutMatch, none_, List.eraseDups_nil, List.append_nil]

/-- More reports of expected paths leave no more of them without a match. -/
theorem withoutMatch_sublist (more : reports ⊆ others)
    (known : ∀ report ∈ others, report.1 ∈ expected) :
    (withoutMatch expected others).Sublist (withoutMatch expected reports) := by
  rw [withoutMatch_of_known known, withoutMatch_of_known fun report member =>
    known report (more member)]
  refine List.monotone_filter_right _ fun path nowhere => ?_
  rw [decide_eq_true_eq] at nowhere ⊢
  exact fun report member => nowhere report (more member)

theorem withoutMatch_congr (same : ∀ report, report ∈ reports ↔ report ∈ others)
    (known : ∀ report ∈ reports, report.1 ∈ expected) :
    withoutMatch expected others = withoutMatch expected reports := by
  rw [withoutMatch_of_known known, withoutMatch_of_known fun report member =>
    known report ((same report).mpr member)]
  simp only [same]

end

section

variable {item row : Value} {report other : Report} {reports others : List Report}

theorem IsReport.unique (one : IsReport item report) (another : IsReport item other) :
    report = other := by
  obtain ⟨entries, rfl, path, matched⟩ := one
  obtain ⟨_, same, otherPath, otherMatched⟩ := another
  cases same
  rw [path, Option.some.injEq, Value.text.injEq] at otherPath
  rw [matched, Option.some.injEq, Value.int.injEq, Int.natCast_inj] at otherMatched
  exact Prod.ext otherPath otherMatched

theorem RowReports.unique (one : RowReports row reports) (another : RowReports row others) :
    reports = others := by
  obtain ⟨entries, items, rfl, taken, each⟩ := one
  obtain ⟨_, _, same, takenAgain, eachAgain⟩ := another
  cases same
  rw [taken, Except.ok.injEq] at takenAgain
  subst takenAgain
  have unique : Relator.RightUnique IsReport := fun _ _ _ => IsReport.unique
  exact List.right_unique_forall₂' unique each eachAgain

/-- Whatever some rows report is reported by rows that they are among. -/
theorem RowsReport.subset {items more : List Value} (one : RowsReport (.list items) reports)
    (another : RowsReport (.list more) others) (among : items ⊆ more) : reports ⊆ others := by
  obtain ⟨_, perRow, same, each, rfl⟩ := one
  obtain ⟨_, perRowOther, sameOther, eachOther, rfl⟩ := another
  cases same
  cases sameOther
  intro report member
  obtain ⟨told, inside, member⟩ := List.mem_flatten.mp member
  obtain ⟨row, here, tells⟩ := Outcome.partner_of_mem_others each inside
  obtain ⟨again, there, tellsAgain⟩ := Outcome.partner_of_mem eachOther (among here)
  exact List.mem_flatten.mpr ⟨again, there, tells.unique tellsAgain ▸ member⟩

end

/-- The entries without a match are exactly the paths that are expected or reported and of which no
report has a match, each once, the expected ones in their order and then the others in the order of
their first reports.  If all reported paths are expected, they are the same with the reports in
whatever order and in whatever rows, and more rows only take some of them away. -/
theorem unmatched_exact {items : List Value} {reports : List Report}
    (reported : RowsReport (.list items) reports) (expected : List String) :
    unmatched (.list items) (expected.map .text) =
      .ok ((withoutMatch expected reports).map .text) ∧
    (∀ path, path ∈ withoutMatch expected reports ↔
      (path ∈ expected ∨ path ∈ reports.map Prod.fst) ∧
        ∀ report ∈ reports, report.1 = path → report.2 = 0) ∧
    (withoutMatch expected reports).Nodup ∧
    ∀ more others, RowsReport (.list more) others → (∀ report ∈ others, report.1 ∈ expected) →
      (others.Perm reports → unmatched (.list more) (expected.map .text) =
        unmatched (.list items) (expected.map .text)) ∧
      (items ⊆ more → ∃ left : List String,
        unmatched (.list more) (expected.map .text) = .ok (left.map .text) ∧
          left.Sublist (withoutMatch expected reports)) := by
  have exact_ := unmatched_eq expected reported
  rw [missing_eq] at exact_
  refine ⟨exact_, fun path => mem_withoutMatch_iff, withoutMatch_nodup, ?_⟩
  intro more others reportedToo known
  have again := unmatched_eq expected reportedToo
  rw [missing_eq] at again
  constructor
  · intro shuffled
    rw [again, exact_, withoutMatch_congr (fun report => shuffled.mem_iff) known]
  · intro among
    exact ⟨_, again, withoutMatch_sublist (reported.subset reportedToo among) known⟩

section

/-- A report as an item of a row. -/
def Report.item (report : Report) : Value :=
  .object [("path", .text report.1), ("matched", .int report.2)]

/-- A row of data with some reports. -/
def rowReporting (reports : List Report) : Value :=
  .object [("data", .null), ("matches", .list (reports.map Report.item))]

theorem rowsReport_rowReporting (perRow : List (List Report)) :
    RowsReport (.list (perRow.map rowReporting)) perRow.flatten := by
  refine ⟨_, perRow, rfl, ?_, rfl⟩
  rw [List.forall₂_map_left_iff, List.forall₂_same]
  refine fun reports _ => ⟨_, reports.map Report.item, rfl, Request.itemsOf_list _, ?_⟩
  rw [List.forall₂_map_left_iff, List.forall₂_same]
  exact fun report _ => ⟨_, rfl, rfl, rfl⟩

/-- A path that is expected twice and never reported, one that is reported without a match, one that
has a match in the second row, and one that nobody expects. -/
theorem unmatched_exact_casting :
    unmatched (.list ([[("cast[1]", 0), ("crew[0]", 0)], [("crew[0]", 2), ("score[0]", 0)]].map
        rowReporting)) (["cast[1]", "cast[0]", "cast[1]"].map .text) =
      .ok (["cast[1]", "cast[0]", "score[0]"].map .text) ∧
    unmatched (.list ([[("crew[0]", 0), ("cast[1]", 0)], [("crew[0]", 2)]].map rowReporting))
        (["cast[1]", "crew[0]"].map .text) =
      unmatched (.list ([[("cast[1]", 0), ("crew[0]", 2)], [("crew[0]", 0)]].map rowReporting))
        (["cast[1]", "crew[0]"].map .text) := by
  constructor
  · exact (unmatched_exact (rowsReport_rowReporting _) _).1
  · obtain ⟨-, -, -, again⟩ := unmatched_exact (rowsReport_rowReporting _) _
    refine (again _ _ (rowsReport_rowReporting _) ?_).1 ?_
    · decide
    · decide

end

end GraphGateway.Statement
