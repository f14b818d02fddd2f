/-
Complete reads of collections. The host and the broker each follow the cursors of a collection in a loop of their own,
and both give the pages that they reached to one merge: so they agree on every page function, and succeed on the pages
that are complete.
-/
import Roundwright.GitHub.Read
import Roundwright.Lib.Ends

namespace Roundwright.GitHub

open Lib

variable {host : Host}

/-! ## The host's loop -/

/-- `_normalize_complete_collection_pages`, as a read result. -/
def normalizedResult (host : Host) (request : GitHubReadRequest) (pages : List CollectionPage) : Except Error GitHubReadResult :=
  match normalizeCompleteCollectionPages host request pages with
  | .error e => .error e
  | .ok (.error failure) => .ok failure
  | .ok (.ok collection) => .ok ⟨request, .ok collection.toSnapshot⟩

/-- The loop of `_read_complete_collection`, of which there may be `left` more pages. -/
def readCollection (host : Host) (request : GitHubReadRequest) (readPage : Option String → Option CollectionPage) :
    (left : Nat) → (pages : List CollectionPage) → (cursor : Option String) → Except Error GitHubReadResult
  | 0, _, _ => .ok (.failed request .malformedResponse "collection page limit is exceeded")
  | left + 1, pages, cursor =>
    match readPage cursor with
    | none => .ok (.failed request .malformedResponse "collection pagination metadata is unavailable")
    | some page =>
      if page.request ≠ request ∨ page.cursor ≠ cursor then
        .ok (.failed request .malformedResponse "collection page request drifted")
      else if ∃ first ∈ pages.head?, page.totalCount ≠ first.totalCount then
        .ok (.failed request .malformedResponse "collection total is inconsistent")
      else if 3200 < page.totalCount then .ok (.failed request .malformedResponse "collection item limit is exceeded")
      else if page.nextCursor ≠ none ∧ ((∃ prior ∈ pages, prior.cursor = page.nextCursor) ∨ page.nextCursor = cursor) then
        .ok (.failed request .malformedResponse "collection cursor is repeated or cyclic")
      else
        match page.nextCursor with
        | none => normalizedResult host request (pages ++ [page])
        | some next => readCollection host request readPage left (pages ++ [page]) (some next)

/-- `_read_complete_collection` -/
def readCompleteCollection (host : Host) (request : GitHubReadRequest) (readPage : Option String → Option CollectionPage) :
    Except Error GitHubReadResult :=
  readCollection host request readPage 32 [] none

/-! ## The merge -/

/-- What a page is of: its kind, and the identities that the merge compares. -/
inductive CollectionTarget where
  | comments (repository : RepositoryRef) (issueNumber : Nat) (targetKind : String)
  | reviews (repository : RepositoryRef) (pullRequestNumber : Nat) (headSha : String)
  | requestedReviewers (repository : RepositoryRef) (pullRequestNumber : Nat) (candidateSha : String)
deriving DecidableEq

namespace CollectionSnapshot

def target : CollectionSnapshot → CollectionTarget
  | .comments s => .comments s.repository s.issueNumber s.targetKind
  | .reviews s => .reviews s.repository s.pullRequestNumber s.headSha
  | .requestedReviewers s => .requestedReviewers s.repository s.pullRequestNumber s.candidateSha

/-- The items under their identifiers. -/
def items : CollectionSnapshot → List (String × CollectionItem)
  | .comments s => s.comments.map fun c => (c.commentId, .comment c)
  | .reviews s => s.reviews.map fun r => (r.reviewId, .review r)
  | .requestedReviewers s => s.reviewers.map fun login => (login, .reviewer login)

/-- Requested reviewers after a first page of another kind, up to the attribute that it lacks. -/
def Incomparable : CollectionSnapshot → CollectionSnapshot → Prop
  | .comments f, .requestedReviewers s => s.repository = f.repository
  | .reviews f, .requestedReviewers s => s.repository = f.repository ∧ s.pullRequestNumber = f.pullRequestNumber
  | _, _ => False

end CollectionSnapshot

/-- The items of all pages, in order. -/
def itemsOf (pages : List CollectionPage) : List (String × CollectionItem) := pages.flatMap fun p => p.snapshot.items

variable {pages : List CollectionPage}

section Merge

variable {first s : CollectionSnapshot}

theorem pageItems_eq_ok {items : List (String × CollectionItem)} :
    pageItems first s = .ok (.ok items) ↔ s.target = first.target ∧ items = s.items := by
  cases s <;> cases first <;> simp only [pageItems, CollectionSnapshot.target, CollectionSnapshot.items] <;> grind

theorem pageItems_eq_error {e : Error} : pageItems first s = .error e ↔ e = .attribute ∧ first.Incomparable s := by
  cases s <;> cases first <;> simp only [pageItems, CollectionSnapshot.Incomparable] <;> grind

/-- The check for identifiers that come twice, on items that are gathered. -/
theorem distinct_iff {gathered items : List (String × CollectionItem)} (hgathered : (gathered.map Prod.fst).Nodup) :
    ((items.map Prod.fst).Nodup ∧ ∀ i ∈ items.map Prod.fst, i ∉ gathered.map Prod.fst) ↔
    ((gathered ++ items).map Prod.fst).Nodup := by
  rw [List.map_append, List.nodup_append']
  constructor
  · rintro ⟨hitems, hnew⟩
    exact ⟨hgathered, hitems, fun i hold hnow => hnew i hnow hold⟩
  · rintro ⟨-, hitems, hnew⟩
    exact ⟨hitems, fun i hnow hold => hnew hold hnow⟩

theorem CollectionSnapshot.Incomparable.target_ne (h : first.Incomparable s) : s.target ≠ first.target := by
  cases s <;> cases first <;> simp [CollectionSnapshot.Incomparable, CollectionSnapshot.target] at h ⊢

/-- These pages were merged before one that cannot be compared with the first. -/
def Breaks (first : CollectionSnapshot) (gathered : List (String × CollectionItem)) (pages : List CollectionPage) : Prop :=
  ∃ before page after, pages = before ++ page :: after ∧ (∀ p ∈ before, p.snapshot.target = first.target) ∧
    ((gathered ++ itemsOf before).map Prod.fst).Nodup ∧ first.Incomparable page.snapshot

theorem breaks_cons {gathered : List (String × CollectionItem)} {page : CollectionPage}
    (hgathered : (gathered.map Prod.fst).Nodup) : Breaks first gathered (page :: pages) ↔ first.Incomparable page.snapshot ∨
      (page.snapshot.target = first.target ∧ Breaks first (gathered ++ page.snapshot.items) pages) := by
  have hitems : ∀ before, gathered ++ itemsOf (page :: before) = (gathered ++ page.snapshot.items) ++ itemsOf before := by
    intro before
    rw [List.append_assoc]
    rfl
  constructor
  · rintro ⟨before, other, after, heq, htarget, hnodup, hincomparable⟩
    cases before with
    | nil =>
      obtain ⟨rfl, -⟩ := List.cons.inj heq
      exact .inl hincomparable
    | cons first before =>
      obtain ⟨rfl, rfl⟩ := List.cons.inj heq
      rw [hitems] at hnodup
      obtain ⟨hpage, htarget⟩ := List.forall_mem_cons.1 htarget
      exact .inr ⟨hpage, before, other, after, rfl, htarget, hnodup, hincomparable⟩
  · rintro (hincomparable | ⟨hpage, before, other, after, rfl, htarget, hnodup, hincomparable⟩)
    · exact ⟨[], page, pages, rfl, by simp, by simpa [itemsOf] using hgathered, hincomparable⟩
    · refine ⟨page :: before, other, after, rfl, List.forall_mem_cons.2 ⟨hpage, htarget⟩, ?_, hincomparable⟩
      rw [hitems]
      exact hnodup

/-- The pages that are gathered: all of them, or those before one that cannot be compared with the first. -/
theorem gatherItems_spec {pages : List CollectionPage} : ∀ {gathered : List (String × CollectionItem)},
    (gathered.map Prod.fst).Nodup →
    (∀ items, gatherItems first pages gathered = .ok (.ok items) ↔ (∀ p ∈ pages, p.snapshot.target = first.target) ∧
      ((gathered ++ itemsOf pages).map Prod.fst).Nodup ∧ items = gathered ++ itemsOf pages) ∧
    ∀ e, gatherItems first pages gathered = .error e ↔ e = .attribute ∧ Breaks first gathered pages := by
  induction pages with
  | nil =>
    intro gathered hgathered
    refine ⟨fun items => ?_, fun e => ?_⟩
    · simpa [gatherItems, itemsOf, eq_comm] using fun _ => hgathered
    · simp [gatherItems, Breaks]
  | cons page pages ih =>
    intro gathered hgathered
    have hitems : gathered ++ itemsOf (page :: pages) = (gathered ++ page.snapshot.items) ++ itemsOf pages := by
      rw [List.append_assoc]
      rfl
    rw [hitems]
    simp only [breaks_cons hgathered, List.forall_mem_cons]
    unfold gatherItems
    cases hpage : pageItems first page.snapshot with
    | error e =>
      obtain ⟨rfl, hincomparable⟩ := pageItems_eq_error.1 hpage
      have hne := hincomparable.target_ne
      exact ⟨fun items => by simp [hne], fun e => by simp [hincomparable, eq_comm]⟩
    | ok read =>
      cases read with
      | error reason =>
        have hne : page.snapshot.target ≠ first.target := by
          intro htarget
          rw [pageItems_eq_ok.2 ⟨htarget, rfl⟩] at hpage
          cases hpage
        have hcomparable : ¬ first.Incomparable page.snapshot := by
          intro hno
          rw [pageItems_eq_error.2 ⟨rfl, hno⟩] at hpage
          cases hpage
        exact ⟨fun items => by simp [hne], fun e => by simp [hne, hcomparable]⟩
      | ok items =>
        obtain ⟨htarget, rfl⟩ := pageItems_eq_ok.1 hpage
        have hcomparable : ¬ first.Incomparable page.snapshot := fun hno => hno.target_ne htarget
        simp only [distinct_iff hgathered]
        by_cases hdistinct : ((gathered ++ page.snapshot.items).map Prod.fst).Nodup
        · obtain ⟨hok, herror⟩ := ih hdistinct
          simp only [if_pos hdistinct, hok, herror, htarget, hcomparable, true_and, false_or, implies_true, and_self]
        · -- an identifier that comes twice stays so
          have hnodup : ∀ rest : List (String × CollectionItem),
            ¬ ((gathered ++ page.snapshot.items ++ rest).map Prod.fst).Nodup := by
            intro rest hno
            rw [List.map_append] at hno
            exact hdistinct (List.nodup_append.1 hno).1
          simp only [if_neg hdistinct, hcomparable, false_or]
          refine ⟨fun items => ?_, fun e => ?_⟩
          · constructor
            · rintro ⟨⟩
            · rintro ⟨-, hno, -⟩
              exact absurd hno (hnodup _)
          · constructor
            · rintro ⟨⟩
            · rintro ⟨-, -, before, -, -, -, -, hno, -⟩
              exact absurd hno (hnodup _)

end Merge

/-! ## The pages of a page function -/

section Pages

variable (request : GitHubReadRequest) (readPage : Option String → Option CollectionPage)

/-- The pages that follow their cursors from a first one to a terminal page, all of them answers to what was asked. -/
inductive Reads : Option String → List CollectionPage → Prop
  | last {cursor : Option String} {page : CollectionPage} (hread : readPage cursor = some page)
      (hasked : page.request = request ∧ page.cursor = cursor) (hnext : page.nextCursor = none) : Reads cursor [page]
  | next {cursor : Option String} {page : CollectionPage} {next : String} {pages : List CollectionPage}
      (hread : readPage cursor = some page) (hasked : page.request = request ∧ page.cursor = cursor)
      (hnext : page.nextCursor = some next) (rest : Reads (some next) pages) : Reads cursor (page :: pages)

/-- No cursor is repeated, there are at most 32 pages, and one total of at most 3200. -/
structure Regular (pages : List CollectionPage) : Prop where
  cursors : (pages.map (·.cursor)).Nodup
  limit : pages.length ≤ 32
  total : ∃ total ≤ 3200, ∀ p ∈ pages, p.totalCount = total

/-- One target, and as many items as the pages promise, with an identifier each. -/
structure Whole (pages : List CollectionPage) : Prop where
  target : ∃ target, ∀ p ∈ pages, p.snapshot.target = target
  distinct : ((itemsOf pages).map Prod.fst).Nodup
  count : ∀ p ∈ pages, p.totalCount = (itemsOf pages).length

/-- The pages of a complete collection. -/
structure Complete (pages : List CollectionPage) : Prop where
  reads : Reads request readPage none pages
  regular : Regular pages
  whole : Whole pages

variable {request : GitHubReadRequest} {readPage : Option String → Option CollectionPage} {cursor : Option String}
  {page : CollectionPage} {pages pages' rest : List CollectionPage}

theorem reads_iff : Reads request readPage cursor rest ↔ ∃ page pages, rest = page :: pages ∧ readPage cursor = some page ∧
    (page.request = request ∧ page.cursor = cursor) ∧
    ((page.nextCursor = none ∧ pages = []) ∨ ∃ next, page.nextCursor = some next ∧ Reads request readPage (some next) pages) := by
  constructor
  · intro h
    cases h with
    | last hread hasked hnext => exact ⟨_, [], rfl, hread, hasked, .inl ⟨hnext, rfl⟩⟩
    | next hread hasked hnext hrest => exact ⟨_, _, rfl, hread, hasked, .inr ⟨_, hnext, hrest⟩⟩
  · rintro ⟨page, pages, rfl, hread, hasked, ⟨hnext, rfl⟩ | ⟨next, hnext, hrest⟩⟩
    · exact .last hread hasked hnext
    · exact .next hread hasked hnext hrest

theorem Reads.unique (h : Reads request readPage cursor pages) (h' : Reads request readPage cursor pages') : pages = pages' := by
  induction h generalizing pages' with
  | last hread hasked hnext =>
    obtain ⟨page, rest, rfl, hread', -, ⟨-, rfl⟩ | ⟨next, hnext', -⟩⟩ := reads_iff.1 h'
    · cases hread.symm.trans hread'
      rfl
    · cases hread.symm.trans hread'
      cases hnext.symm.trans hnext'
  | next hread hasked hnext hrest ih =>
    obtain ⟨page, rest, rfl, hread', -, ⟨hnext', -⟩ | ⟨next, hnext', hrest'⟩⟩ := reads_iff.1 h'
    · cases hread.symm.trans hread'
      cases hnext.symm.trans hnext'
    · cases hread.symm.trans hread'
      cases hnext.symm.trans hnext'
      rw [ih hrest']

/-- The pages read so far, and that no cursor of theirs is asked for again. -/
structure Sofar (pages : List CollectionPage) (cursor : Option String) : Prop where
  cursors : (pages.map (·.cursor) ++ [cursor]).Nodup
  total : ∃ total ≤ 3200, ∀ p ∈ pages, p.totalCount = total

theorem head_total_iff (total : Nat) (htotal : ∃ t ≤ 3200, ∀ p ∈ pages, p.totalCount = t) :
    ((¬ ∃ first ∈ pages.head?, total ≠ first.totalCount) ∧ total ≤ 3200) ↔
      (∀ p ∈ pages, p.totalCount = total) ∧ total ≤ 3200 := by
  refine and_congr_left fun _ => ?_
  obtain ⟨t, -, htotal⟩ := htotal
  cases pages with
  | nil => simp
  | cons first pages =>
    obtain ⟨hfirst, hpages⟩ := List.forall_mem_cons.1 htotal
    simp only [List.head?_cons, Option.mem_some_iff, exists_eq_left', ne_eq, not_not, List.forall_mem_cons]
    constructor
    · rintro rfl
      exact ⟨rfl, fun p hp => (hpages p hp).trans hfirst.symm⟩
    · rintro ⟨rfl, -⟩
      rfl

/-- A page that the loop goes on with. -/
structure Admissible (request : GitHubReadRequest) (pages : List CollectionPage) (cursor : Option String) (page : CollectionPage) :
    Prop where
  asked : page.request = request ∧ page.cursor = cursor
  total : (∀ p ∈ pages, p.totalCount = page.totalCount) ∧ page.totalCount ≤ 3200
  fresh : ∀ next, page.nextCursor = some next → (∀ prior ∈ pages, prior.cursor ≠ some next) ∧ some next ≠ cursor

theorem Reads.admissible (hreads : Reads request readPage cursor rest) (hread : readPage cursor = some page)
    (hregular : Regular (pages ++ rest)) : Admissible request pages cursor page := by
  obtain ⟨page', rest, rfl, hread', hasked, hrest⟩ := reads_iff.1 hreads
  cases hread.symm.trans hread'
  obtain ⟨total, hlimit, htotal⟩ := hregular.total
  obtain ⟨hpages, hnow⟩ := List.forall_mem_append.1 htotal
  obtain ⟨rfl, -⟩ := List.forall_mem_cons.1 hnow
  refine ⟨hasked, ⟨hpages, hlimit⟩, fun next hnext => ?_⟩
  rcases hrest with ⟨hnone, -⟩ | ⟨next', hnext', hrest⟩
  · cases hnone.symm.trans hnext
  cases hnext.symm.trans hnext'
  obtain ⟨following, rest, rfl, -, ⟨-, hfollowing⟩, -⟩ := reads_iff.1 hrest
  have hcursors := hregular.cursors
  simp only [List.map_append, List.map_cons, hfollowing, hasked.2] at hcursors
  obtain ⟨-, hafter, hapart⟩ := List.nodup_append'.1 hcursors
  refine ⟨fun prior hprior heq => ?_, fun heq => ?_⟩
  · exact hapart (List.mem_map.2 ⟨prior, hprior, heq⟩) (by simp)
  · exact (List.nodup_cons.1 hafter).1 (by simp [heq])

/-- The loop ends in the merge of all pages if what is left of them is regular, and else in a failure. -/
theorem readCollection_spec {left : Nat} : ∀ {pages : List CollectionPage} {cursor : Option String}, left + pages.length = 32 →
    Sofar pages cursor →
    (∃ rest, Reads request readPage cursor rest ∧ Regular (pages ++ rest) ∧
        readCollection host request readPage left pages cursor = normalizedResult host request (pages ++ rest)) ∨
      ((∃ reason, readCollection host request readPage left pages cursor = .ok (.failed request .malformedResponse reason)) ∧
        ∀ rest, Reads request readPage cursor rest → ¬ Regular (pages ++ rest)) := by
  induction left with
  | zero =>
    intro pages cursor hleft hsofar
    refine .inr ⟨⟨_, rfl⟩, fun rest hreads hregular => ?_⟩
    obtain ⟨page, rest, rfl, -⟩ := reads_iff.1 hreads
    have hlimit := hregular.limit
    simp only [List.length_append, List.length_cons] at hlimit
    omega
  | succ left ih =>
    intro pages cursor hleft hsofar
    unfold readCollection
    cases hread : readPage cursor with
    | none =>
      refine .inr ⟨⟨_, rfl⟩, fun rest hreads => ?_⟩
      obtain ⟨page, rest, rfl, hread', -⟩ := reads_iff.1 hreads
      cases hread.symm.trans hread'
    | some page =>
      have hfails : ∀ reason, ¬ Admissible request pages cursor page →
          (∃ rest, Reads request readPage cursor rest ∧ Regular (pages ++ rest) ∧
            Except.ok (GitHubReadResult.failed request .malformedResponse reason) = normalizedResult host request (pages ++ rest)) ∨
          ((∃ r, (Except.ok (GitHubReadResult.failed request .malformedResponse reason) : Except Error GitHubReadResult) =
              .ok (.failed request .malformedResponse r)) ∧
            ∀ rest, Reads request readPage cursor rest → ¬ Regular (pages ++ rest)) :=
        fun reason hno => .inr ⟨⟨reason, rfl⟩, fun rest hreads hregular => hno (hreads.admissible hread hregular)⟩
      have htotals := head_total_iff page.totalCount hsofar.total
      dsimp only
      by_cases hasked : page.request ≠ request ∨ page.cursor ≠ cursor
      · rw [if_pos hasked]
        exact hfails _ fun h => hasked.elim (· h.asked.1) (· h.asked.2)
      rw [if_neg hasked]
      by_cases hfirst : ∃ first ∈ pages.head?, page.totalCount ≠ first.totalCount
      · rw [if_pos hfirst]
        exact hfails _ fun h => (htotals.2 h.total).1 hfirst
      rw [if_neg hfirst]
      by_cases hlimit : 3200 < page.totalCount
      · rw [if_pos hlimit]
        exact hfails _ fun h => absurd h.total.2 (by omega)
      rw [if_neg hlimit]
      by_cases hrepeated : page.nextCursor ≠ none ∧ ((∃ prior ∈ pages, prior.cursor = page.nextCursor) ∨ page.nextCursor = cursor)
      · rw [if_pos hrepeated]
        refine hfails _ fun h => ?_
        obtain ⟨hsome, hrepeated⟩ := hrepeated
        obtain ⟨next, hnext⟩ := Option.ne_none_iff_exists'.1 hsome
        obtain ⟨hnew, hother⟩ := h.fresh next hnext
        rw [hnext] at hrepeated
        rcases hrepeated with ⟨prior, hprior, heq⟩ | heq
        · exact hnew prior hprior heq
        · exact hother heq
      rw [if_neg hrepeated]
      have hasked : page.request = request ∧ page.cursor = cursor := by simpa [not_or] using hasked
      obtain ⟨hpages, hlimit⟩ := htotals.1 ⟨hfirst, by omega⟩
      have hnow : ∃ total ≤ 3200, ∀ p ∈ pages ++ [page], p.totalCount = total :=
        ⟨page.totalCount, hlimit, List.forall_mem_append.2 ⟨hpages, by simp⟩⟩
      have hcursors : ((pages ++ [page]).map (·.cursor)).Nodup := by
        simpa [hasked.2] using hsofar.cursors
      cases hnext : page.nextCursor with
      | none =>
        refine .inl ⟨[page], .last hread hasked hnext, ⟨hcursors, ?_, hnow⟩, rfl⟩
        rw [List.length_append, List.length_singleton]
        omega
      | some next =>
        -- the next cursor was not asked for before
        have hsofar : Sofar (pages ++ [page]) (some next) := by
          refine ⟨List.nodup_append'.2 ⟨hcursors, List.nodup_singleton _, ?_⟩, hnow⟩
          rw [List.disjoint_singleton]
          intro hmem
          obtain ⟨prior, hprior, heq⟩ := List.mem_map.1 hmem
          refine hrepeated ⟨by simp [hnext], ?_⟩
          rw [hnext]
          rcases List.mem_append.1 hprior with hprior | hprior
          · exact .inl ⟨prior, hprior, heq⟩
          · rw [List.mem_singleton.1 hprior, hasked.2] at heq
            exact .inr heq.symm
        have hleft : left + (pages ++ [page]).length = 32 := by
          rw [List.length_append, List.length_singleton]
          omega
        rcases ih hleft hsofar with ⟨rest, hrest, hregular, heq⟩ | ⟨hfailed, hnone⟩
        · refine .inl ⟨page :: rest, .next hread hasked hnext hrest, ?_, ?_⟩
          · rwa [List.append_assoc] at hregular
          · rwa [List.append_assoc] at heq
        · refine .inr ⟨hfailed, fun rest hreads hregular => ?_⟩
          obtain ⟨page', rest, rfl, hread', -, ⟨hnone', -⟩ | ⟨next', hnext', hrest⟩⟩ := reads_iff.1 hreads
          · cases hread.symm.trans hread'
            cases hnext.symm.trans hnone'
          · cases hread.symm.trans hread'
            cases hnext.symm.trans hnext'
            exact hnone rest hrest (by rwa [List.append_assoc])

end Pages

/-! ## The result -/

section Result

variable {request : GitHubReadRequest} {readPage : Option String → Option CollectionPage} {first : CollectionSnapshot}
  {pages : List CollectionPage}

/-- What the constructors of a collection with these identifiers and of its read result accept. -/
def Fits (request : GitHubReadRequest) (identifiers : List String) : CollectionTarget → Prop
  | .comments repository issueNumber _ => request.operation = .comments ∧ repository = request.repository ∧
      (∀ n ∈ request.number, issueNumber = n) ∧ request.expectedSha = none
  | .reviews repository number headSha => request.operation = .reviews ∧ repository = request.repository ∧
      (∀ n ∈ request.number, number = n) ∧ ∀ sha ∈ request.expectedSha, headSha = sha
  | .requestedReviewers repository number candidateSha => identifiers.Pairwise (· < ·) ∧ request.operation = .requestedReviewers ∧
      repository = request.repository ∧ (∀ n ∈ request.number, number = n) ∧ ∀ sha ∈ request.expectedSha, candidateSha = sha

/-- The merge comes to a page that it cannot compare with the first, or to a collection that cannot be built. -/
def Refuses (request : GitHubReadRequest) (pages : List CollectionPage) : Prop :=
  ∃ first ∈ pages.head?, Breaks first.snapshot [] pages ∨
    (Whole pages ∧ ¬ Fits request ((itemsOf pages).map Prod.fst) first.snapshot.target)

/-- An item of a collection of this kind, under its identifier. -/
def CollectionTarget.Has : CollectionTarget → String × CollectionItem → Prop
  | .comments .., i => ∃ c, i = (c.commentId, .comment c)
  | .reviews .., i => ∃ r, i = (r.reviewId, .review r)
  | .requestedReviewers .., i => ∃ login, i = (login, .reviewer login)

theorem CollectionSnapshot.items_has (s : CollectionSnapshot) : ∀ i ∈ s.items, s.target.Has i := by
  intro i hi
  cases s <;>
  · obtain ⟨x, -, rfl⟩ := List.mem_map.1 hi
    exact ⟨x, rfl⟩

theorem items_has (htarget : ∀ p ∈ pages, p.snapshot.target = first.target) : ∀ i ∈ itemsOf pages, first.target.Has i := by
  intro i hi
  obtain ⟨page, hpage, hi⟩ := List.mem_flatMap.1 hi
  rw [← htarget page hpage]
  exact page.snapshot.items_has i hi

theorem normalizedCollection_target (items : List CollectionItem) :
    (normalizedCollection host first pages items).target = first.target := by
  cases first <;> rfl

theorem normalizedCollection_items {items : List (String × CollectionItem)} (h : ∀ i ∈ items, first.target.Has i) :
    (normalizedCollection host first pages (items.map Prod.snd)).items = items := by
  induction items with
  | nil => cases first <;> rfl
  | cons i items ih =>
    obtain ⟨hi, hitems⟩ := List.forall_mem_cons.1 h
    have htail := ih hitems
    cases first <;>
    · obtain ⟨x, rfl⟩ := hi
      exact congrArg (List.cons _) htail

theorem validateCollection_eq_ok {s : CollectionSnapshot} :
    validateCollection request s = .ok () ↔ Fits request (s.items.map Prod.fst) s.target := by
  cases s with
  | comments s => simp [validateCollection, Fits, CollectionSnapshot.target, bind_eq_ok, refuse_eq_ok]
  | reviews s => simp [validateCollection, Fits, CollectionSnapshot.target, bind_eq_ok, refuse_eq_ok]
  | requestedReviewers s =>
    have hlogins : (CollectionSnapshot.requestedReviewers s).items.map Prod.fst = s.reviewers := by
      simp [CollectionSnapshot.items, Function.comp_def]
    rw [hlogins]
    simp [validateCollection, Fits, CollectionSnapshot.target, bind_eq_ok, refuse_eq_ok]

/-- The collection of whole pages. -/
def collectionOf (host : Host) (first : CollectionSnapshot) (pages : List CollectionPage) : CollectionSnapshot :=
  normalizedCollection host first pages ((itemsOf pages).map Prod.snd)

theorem whole_iff {page : CollectionPage} : Whole (page :: pages) ↔
    (∀ p ∈ page :: pages, p.snapshot.target = page.snapshot.target) ∧ ((itemsOf (page :: pages)).map Prod.fst).Nodup ∧
      ∀ p ∈ page :: pages, p.totalCount = (itemsOf (page :: pages)).length := by
  constructor
  · rintro ⟨⟨target, htarget⟩, hdistinct, hcount⟩
    obtain ⟨rfl, -⟩ := List.forall_mem_cons.1 htarget
    exact ⟨htarget, hdistinct, hcount⟩
  · rintro ⟨htarget, hdistinct, hcount⟩
    exact ⟨⟨_, htarget⟩, hdistinct, hcount⟩

/-- A collection of the items of the pages, in their order. Requested reviewers ascend, with a digest of their own. -/
structure CollectionSnapshot.Collects (host : Host) (pages : List CollectionPage) (s : CollectionSnapshot) : Prop where
  target : ∀ p ∈ pages, p.snapshot.target = s.target
  items : s.items = itemsOf pages
  reviewers : ∀ r, s = .requestedReviewers r → r.reviewers.Pairwise (· < ·) ∧
    r.reviewerSetDigest = host.digestValue (reviewersJson r.reviewers) ∧ r.complete = true ∧ r.nextCursor = none ∧
    r.rawEvidenceIdentity = host.digestValue (.arr (pages.map fun p => .digest (p.identity host)))

theorem collectionOf_collects (htarget : ∀ p ∈ pages, p.snapshot.target = first.target)
    (hfits : Fits request ((itemsOf pages).map Prod.fst) first.target) : (collectionOf host first pages).Collects host pages := by
  have hitems : (collectionOf host first pages).items = itemsOf pages := normalizedCollection_items (items_has htarget)
  refine ⟨?_, hitems, fun r hr => ?_⟩
  · intro p hp
    rw [collectionOf, normalizedCollection_target, htarget p hp]
  · have hlogins : r.reviewers = (itemsOf pages).map Prod.fst := by
      rw [← hitems, hr]
      simp [CollectionSnapshot.items, Function.comp_def]
    cases first with
    | comments f => cases hr
    | reviews f => cases hr
    | requestedReviewers f =>
      refine ⟨hlogins ▸ hfits.1, ?_⟩
      cases hr
      exact ⟨rfl, rfl, rfl, rfl⟩

/-- Pages that the merge does not refuse become their collection if they are whole, and else a failure. -/
theorem normalizedResult_spec {page : CollectionPage} (hregular : Regular (page :: pages))
    (hrefuses : ¬ Refuses request (page :: pages)) :
    (Whole (page :: pages) ∧ normalizedResult host request (page :: pages) =
        .ok ⟨request, .ok (collectionOf host page.snapshot (page :: pages)).toSnapshot⟩) ∨
      (¬ Whole (page :: pages) ∧
        ∃ reason, normalizedResult host request (page :: pages) = .ok (.failed request .malformedResponse reason)) := by
  simp only [Refuses, List.head?_cons, Option.mem_some_iff, exists_eq_left', not_or] at hrefuses
  obtain ⟨hcomparable, hfits⟩ := hrefuses
  obtain ⟨hok, herror⟩ := @gatherItems_spec page.snapshot (page :: pages) [] List.nodup_nil
  unfold normalizedResult normalizeCompleteCollectionPages
  rw [whole_iff] at hfits ⊢
  dsimp only
  cases hgather : gatherItems page.snapshot (page :: pages) [] with
  | error e => exact absurd ((herror e).1 hgather).2 hcomparable
  | ok read =>
    cases read with
    | error reason =>
      refine .inr ⟨?_, reason, rfl⟩
      rintro ⟨htarget, hdistinct, -⟩
      cases hgather.symm.trans ((hok _).2 ⟨htarget, hdistinct, rfl⟩)
    | ok items =>
      obtain ⟨htarget, hdistinct, rfl⟩ := (hok items).1 hgather
      rw [List.nil_append] at hdistinct ⊢
      dsimp only
      by_cases hcount : (itemsOf (page :: pages)).length = page.totalCount
      · have hwhole : ∀ p ∈ page :: pages, p.totalCount = (itemsOf (page :: pages)).length := by
          obtain ⟨total, -, htotal⟩ := hregular.total
          intro p hp
          rw [htotal p hp, hcount, htotal page List.mem_cons_self]
        have hvalid : validateCollection request (collectionOf host page.snapshot (page :: pages)) = .ok () := by
          rw [validateCollection_eq_ok, collectionOf, normalizedCollection_target, normalizedCollection_items (items_has htarget)]
          by_contra hno
          exact hfits ⟨⟨htarget, hdistinct, hwhole⟩, hno⟩
        refine .inl ⟨⟨htarget, hdistinct, hwhole⟩, ?_⟩
        unfold collectionOf at hvalid
        rw [if_neg (not_not.2 hcount), hvalid]
        rfl
      · refine .inr ⟨?_, "collection is incomplete", ?_⟩
        · rintro ⟨-, -, hwhole⟩
          exact hcount (hwhole page List.mem_cons_self).symm
        · rw [if_pos hcount]

end Result

/-! ## The broker's loop -/

section Broker

variable {request : GitHubReadRequest} {readPage : Option String → Option CollectionPage} {binding : ReadBinding}

theorem endOfPages_result (pages : List CollectionPage) :
    (endOfPages host binding request pages).map Prod.fst = normalizedResult host request pages := by
  unfold endOfPages normalizedResult
  cases normalizeCompleteCollectionPages host request pages with
  | error e => rfl
  | ok read => cases read <;> rfl

/-- The host's loop takes a page as the broker's does. -/
theorem readCollection_succ (binding : ReadBinding) (left : Nat) (pages : List CollectionPage) (cursor : Option String) :
    readCollection host request readPage (left + 1) pages cursor =
      match takePage host binding request cursor pages (readPage cursor) with
      | .error finished => finished.map Prod.fst
      | .ok (pages, cursor) => readCollection host request readPage left pages cursor := by
  rw [readCollection]
  cases readPage cursor with
  | none => rfl
  | some page =>
    unfold takePage pageDefect
    dsimp only
    split_ifs with hasked htotal hlimit hrepeated
    · rfl
    · rfl
    · rfl
    · rfl
    · cases page.nextCursor with
      | none => exact (endOfPages_result _).symm
      | some next => rfl

theorem readPages_agrees {left : Nat} : ∀ {pages : List CollectionPage} {cursor : Option String} {w w' : World host}
    {events : List (Event BrokerAction Answer (World host))} {read : Except Error CompleteRead},
    (readPages binding request left pages cursor).Finishes w events read w' →
    (∀ e ∈ events, ∀ asked, e.label = .readPage request asked → e.answer.page = readPage asked) →
    read.map Prod.fst = readCollection host request readPage left pages cursor := by
  induction left with
  | zero =>
    intro pages cursor w w' events read hends _
    obtain ⟨-, rfl, -⟩ := Proc.finishes_ret_iff.1 hends
    rfl
  | succ left ih =>
    intro pages cursor w w' events read hends hanswers
    rw [readCollection_succ binding]
    unfold readPages at hends
    cases hends with
    | act hrest =>
      obtain ⟨hpage, hanswers⟩ := List.forall_mem_cons.1 hanswers
      have hpage := hpage cursor rfl
      dsimp only at hpage hrest
      rw [hpage] at hrest
      cases htake : takePage host binding request cursor pages (readPage cursor) with
      | error finished =>
        rw [htake] at hrest
        obtain ⟨-, rfl, -⟩ := Proc.finishes_ret_iff.1 hrest
        rfl
      | ok more =>
        rw [htake] at hrest
        exact ih hrest hanswers

end Broker

/-! ## Both reads -/

section Both

variable {request : GitHubReadRequest} {readPage readPage' : Option String → Option CollectionPage}

/-- The adapter answers with the pages of the page function. -/
def AnswersWith (request : GitHubReadRequest) (readPage : Option String → Option CollectionPage)
    (events : List (Event BrokerAction Answer (World host))) : Prop :=
  ∀ e ∈ events, ∀ cursor, e.label = .readPage request cursor → e.answer.page = readPage cursor

/-- The pages end, and the merge refuses them. -/
def MergeRefuses (request : GitHubReadRequest) (readPage : Option String → Option CollectionPage) : Prop :=
  ∃ pages, Reads request readPage none pages ∧ Regular pages ∧ Refuses request pages

theorem exists_answersWith (binding : ReadBinding) (w : World host) :
    ∃ events read w', (completeBrokerRead binding request).Finishes w events read w' ∧ AnswersWith request readPage events := by
  let answer : BrokerAction → Answer
    | .readPage _ cursor => ⟨false, none, .failed request .malformedResponse "", readPage cursor, .ok .rejected, .other⟩
    | _ => ⟨false, none, .failed request .malformedResponse "", none, .ok .rejected, .other⟩
  obtain ⟨events, read, w', hends, hanswers⟩ := Proc.exists_finishes answer (completeBrokerRead binding request) w
  refine ⟨events, read, w', hends, fun e he cursor hlabel => ?_⟩
  rw [hanswers e he, hlabel]

theorem brokerRead_agrees (hkind : request.operation.isCollection = true) {binding : ReadBinding} {w w' : World host}
    {events : List (Event BrokerAction Answer (World host))} {read : Except Error CompleteRead}
    (hends : (completeBrokerRead binding request).Finishes w events read w') (hanswers : AnswersWith request readPage events) :
    read.map Prod.fst = readCompleteCollection host request readPage := by
  unfold completeBrokerRead at hends
  rw [if_pos hkind] at hends
  exact readPages_agrees hends hanswers

theorem sofar_nil : Sofar [] none := ⟨by simp, 0, Nat.zero_le _, by simp⟩

/-- A complete read that the merge does not refuse returns the collection of the pages; every other read that it does
not refuse fails. -/
theorem readCompleteCollection_spec (hrefused : ¬ MergeRefuses request readPage) :
    (∃ (pages : List CollectionPage) (collection : CollectionSnapshot), Complete request readPage pages ∧
    collection.Collects host pages ∧
        readCompleteCollection host request readPage = .ok ⟨request, .ok collection.toSnapshot⟩) ∨
      ((∀ pages, ¬ Complete request readPage pages) ∧
        ∃ reason, readCompleteCollection host request readPage = .ok (.failed request .malformedResponse reason)) := by
  rcases @readCollection_spec host request readPage 32 [] none rfl sofar_nil with
    ⟨pages, hreads, hregular, heq⟩ | ⟨hfailed, hnone⟩
  · obtain ⟨page, rest, rfl, -⟩ := reads_iff.1 hreads
    have hrefuses : ¬ Refuses request (page :: rest) := fun h => hrefused ⟨_, hreads, hregular, h⟩
    rcases normalizedResult_spec hregular hrefuses with ⟨hwhole, hresult⟩ | ⟨hnot, reason, hresult⟩
    · have hfits : Fits request ((itemsOf (page :: rest)).map Prod.fst) page.snapshot.target := by
        by_contra hno
        exact hrefuses ⟨page, rfl, .inr ⟨hwhole, hno⟩⟩
      exact .inl ⟨_, _, ⟨hreads, hregular, hwhole⟩, collectionOf_collects (whole_iff.1 hwhole).1 hfits, heq.trans hresult⟩
    · refine .inr ⟨fun pages h => ?_, reason, heq.trans hresult⟩
      obtain rfl := hreads.unique h.reads
      exact hnot h.whole
  · exact .inr ⟨fun pages h => hnone pages h.reads h.regular, hfailed⟩

/-- Collections of the same requested reviewers differ in the evidence of their pages alone. -/
theorem CollectionSnapshot.Collects.reviewers_eq {pages pages' : List CollectionPage}
    {r r' : RequestedReviewersSnapshot} (h : (CollectionSnapshot.requestedReviewers r).Collects host pages)
    (h' : (CollectionSnapshot.requestedReviewers r').Collects host pages')
    (htarget : (CollectionSnapshot.requestedReviewers r).target = (CollectionSnapshot.requestedReviewers r').target)
    (hitems : ∀ i, i ∈ itemsOf pages ↔ i ∈ itemsOf pages') : { r with rawEvidenceIdentity := r'.rawEvidenceIdentity } = r' := by
  obtain ⟨hsorted, hdigest, hcomplete, hcursor, -⟩ := h.reviewers r rfl
  obtain ⟨hsorted', hdigest', hcomplete', hcursor', -⟩ := h'.reviewers r' rfl
  have hmem : ∀ login, login ∈ r.reviewers ↔ login ∈ r'.reviewers := by
    intro login
    have hlogin := hitems (login, .reviewer login)
    rw [← h.items, ← h'.items] at hlogin
    simpa [CollectionSnapshot.items] using hlogin
  have hperm : r.reviewers.Perm r'.reviewers :=
    (List.perm_ext_iff_of_nodup (hsorted.imp fun hlt => ne_of_lt hlt) (hsorted'.imp fun hlt => ne_of_lt hlt)).2 hmem
  have hreviewers : r.reviewers = r'.reviewers :=
    hperm.eq_of_pairwise (fun a b _ _ hab hba => absurd hba (not_lt_of_gt hab)) hsorted hsorted'
  obtain ⟨hrepository, hnumber, hsha⟩ := CollectionTarget.requestedReviewers.inj htarget
  cases r
  cases r'
  simp only at hreviewers hdigest hdigest' hcomplete hcomplete' hcursor hcursor' hrepository hnumber hsha
  subst hreviewers hrepository hnumber hsha
  simp only [hdigest, hdigest', hcomplete, hcomplete', hcursor, hcursor']

/-- The host and the broker read alike. A read that the merge does not refuse returns, with the collection of the pages
exactly when they are complete; and collections of the same requested reviewers differ in the evidence of their pages
alone. -/
theorem complete_reads_exact (request : GitHubReadRequest) (hkind : request.operation.isCollection = true)
    (readPage : Option String → Option CollectionPage) :
    (∀ (binding : ReadBinding) (w : World host),
      (∃ events read w', (completeBrokerRead binding request).Finishes w events read w' ∧ AnswersWith request readPage events) ∧
      ∀ events read w', (completeBrokerRead binding request).Finishes w events read w' → AnswersWith request readPage events →
        read.map Prod.fst = readCompleteCollection host request readPage) ∧
    (¬ MergeRefuses request readPage → ∃ result, readCompleteCollection host request readPage = .ok result ∧
      (result.ok = true ↔ ∃ pages, Complete request readPage pages) ∧
      ∀ pages, Complete request readPage pages → ∃ collection : CollectionSnapshot, result = ⟨request, .ok collection.toSnapshot⟩ ∧
        collection.Collects host pages ∧
        ∀ (readPage' : Option String → Option CollectionPage) (pages' : List CollectionPage)
          (r : RequestedReviewersSnapshot), ¬ MergeRefuses request readPage' → Complete request readPage' pages' →
            collection = .requestedReviewers r →
          (∀ p ∈ pages, ∀ p' ∈ pages', p'.snapshot.target = p.snapshot.target) → (∀ i, i ∈ itemsOf pages ↔ i ∈ itemsOf pages') →
          ∃ r', readCompleteCollection host request readPage' = .ok ⟨request, .ok (.requestedReviewers r')⟩ ∧
            { r with rawEvidenceIdentity := r'.rawEvidenceIdentity } = r') := by
  refine ⟨fun binding w => ⟨exists_answersWith binding w, fun events read w' => brokerRead_agrees hkind⟩, fun hrefused => ?_⟩
  rcases readCompleteCollection_spec hrefused with ⟨pages, collection, hcomplete, hcollects, hread⟩ | ⟨hnone, reason, hread⟩
  · refine ⟨_, hread, ⟨fun _ => ⟨pages, hcomplete⟩, fun _ => rfl⟩, fun others h => ?_⟩
    obtain rfl := hcomplete.reads.unique h.reads
    refine ⟨collection, rfl, hcollects, fun readPage' pages' r hrefused' hcomplete' hr hsame hitems => ?_⟩
    subst hr
    rcases readCompleteCollection_spec hrefused' with ⟨others, collection', hothers, hcollects', hread'⟩ | ⟨hnone, -⟩
    · obtain rfl := hothers.reads.unique hcomplete'.reads
      obtain ⟨page, rest, rfl, -⟩ := reads_iff.1 hcomplete.reads
      obtain ⟨page', rest', rfl, -⟩ := reads_iff.1 hothers.reads
      have htarget : collection'.target = (CollectionSnapshot.requestedReviewers r).target := by
        rw [← hcollects'.target page' List.mem_cons_self, ← hcollects.target page List.mem_cons_self]
        exact hsame page List.mem_cons_self page' List.mem_cons_self
      cases collection' with
      | comments s => cases htarget
      | reviews s => cases htarget
      | requestedReviewers r' => exact ⟨r', hread', hcollects.reviewers_eq hcollects' htarget.symm hitems⟩
    · exact absurd hcomplete' (hnone pages')
  · refine ⟨_, hread, ⟨fun hok => (by cases hok), fun ⟨pages, h⟩ => absurd h (hnone pages)⟩, fun pages h => absurd h (hnone pages)⟩

end Both

/-! ## Two reviewers, in one page and in two -/

namespace CollectionSample

def repository : RepositoryRef := ⟨"o", "r"⟩

def request : GitHubReadRequest := ⟨.requestedReviewers, repository, some 7, none, some "c"⟩

def page (cursor next : Option String) (reviewers : List String) : CollectionPage where
  request := request
  cursor := cursor
  nextCursor := next
  totalCount := 2
  snapshot := .requestedReviewers ⟨repository, 7, "c", reviewers, Host.sample.digestValue (reviewersJson reviewers),
    next.isNone, next, .sha256 (.ofNat 64 1)⟩
  sameRepository := rfl

def whole : Option String → Option CollectionPage
  | none => some (page none none ["alice", "bob"])
  | _ => none

def split : Option String → Option CollectionPage
  | none => some (page none (some "n") ["alice"])
  | some "n" => some (page (some "n") none ["bob"])
  | _ => none

def wholePages : List CollectionPage := [page none none ["alice", "bob"]]

def splitPages : List CollectionPage := [page none (some "n") ["alice"], page (some "n") none ["bob"]]

theorem complete_whole : Complete request whole wholePages where
  reads := .last rfl ⟨rfl, rfl⟩ rfl
  regular := ⟨by decide, by decide, 2, by decide, by decide⟩
  whole := ⟨⟨.requestedReviewers repository 7 "c", by decide⟩, by decide, by decide⟩

theorem complete_split : Complete request split splitPages where
  reads := .next rfl ⟨rfl, rfl⟩ rfl (.last rfl ⟨rfl, rfl⟩ rfl)
  regular := ⟨by decide, by decide, 2, by decide, by decide⟩
  whole := ⟨⟨.requestedReviewers repository 7 "c", by decide⟩, by decide, by decide⟩

/-- Ascending reviewers of the request are not refused. -/
theorem not_refuses {readPage : Option String → Option CollectionPage} {pages : List CollectionPage}
    (h : Complete request readPage pages)
    (hfits : Fits request ((itemsOf pages).map Prod.fst) (.requestedReviewers repository 7 "c"))
    (htarget : ∀ p ∈ pages, p.snapshot.target = .requestedReviewers repository 7 "c") : ¬ MergeRefuses request readPage := by
  rintro ⟨others, hreads, -, first, hfirst, hrefuses⟩
  obtain rfl := h.reads.unique hreads
  have hkind := htarget first (List.mem_of_mem_head? hfirst)
  rcases hrefuses with ⟨before, page, after, rfl, -, -, hincomparable⟩ | ⟨-, hno⟩
  · cases hsnapshot : first.snapshot <;> rw [hsnapshot] at hkind hincomparable
    · cases hkind
    · cases hkind
    · exact hincomparable
  · rw [hkind] at hno
    exact hno hfits

theorem not_refuses_whole : ¬ MergeRefuses request whole :=
  not_refuses complete_whole ⟨by decide +kernel, rfl, rfl, by simp [request], by simp [request]⟩ (by decide)

theorem not_refuses_split : ¬ MergeRefuses request split :=
  not_refuses complete_split ⟨by decide +kernel, rfl, rfl, by simp [request], by simp [request]⟩ (by decide)

/-- A complete read of requested reviewers. -/
theorem exists_reviewers {readPage : Option String → Option CollectionPage} {pages : List CollectionPage}
    (h : Complete request readPage pages) (hrefused : ¬ MergeRefuses request readPage)
    (htarget : ∀ p ∈ pages, p.snapshot.target = .requestedReviewers repository 7 "c") :
    ∃ r, readCompleteCollection .sample request readPage = .ok ⟨request, .ok (.requestedReviewers r)⟩ ∧
      (CollectionSnapshot.requestedReviewers r).Collects .sample pages := by
  rcases readCompleteCollection_spec hrefused with ⟨others, collection, hothers, hcollects, hread⟩ | ⟨hnone, -⟩
  · obtain rfl := hothers.reads.unique h.reads
    obtain ⟨page, rest, rfl, -⟩ := reads_iff.1 h.reads
    have hkind := (hcollects.target page List.mem_cons_self).symm.trans (htarget page List.mem_cons_self)
    cases collection with
    | comments s => cases hkind
    | reviews s => cases hkind
    | requestedReviewers r => exact ⟨r, hread, hcollects⟩
  · exact absurd h (hnone pages)

end CollectionSample

open CollectionSample in
/-- The reviewers in two pages give the collection of one page, up to the evidence. -/
theorem complete_reads_exact_two_pages : ∃ r r' : RequestedReviewersSnapshot,
    readCompleteCollection .sample request split = .ok ⟨request, .ok (.requestedReviewers r)⟩ ∧
      readCompleteCollection .sample request whole = .ok ⟨request, .ok (.requestedReviewers r')⟩ ∧
      { r with rawEvidenceIdentity := r'.rawEvidenceIdentity } = r' := by
  obtain ⟨-, hreturns⟩ := @complete_reads_exact .sample request rfl split
  obtain ⟨result, hread, -, hcollects⟩ := hreturns not_refuses_split
  obtain ⟨collection, rfl, hitems, hsame⟩ := hcollects splitPages complete_split
  cases collection with
  | comments s => exact absurd (hitems.target _ List.mem_cons_self) (by simp [page, CollectionSnapshot.target])
  | reviews s => exact absurd (hitems.target _ List.mem_cons_self) (by simp [page, CollectionSnapshot.target])
  | requestedReviewers r =>
    obtain ⟨r', hread', heq⟩ := hsame whole wholePages r not_refuses_whole complete_whole rfl (by decide) (fun i => Iff.rfl)
    exact ⟨r, r', hread, hread', heq⟩

open CollectionSample in
/-- The collection of one page with both reviewers is not the collection of two pages with one each. -/
theorem reviewers_split_seen : ∃ r r' : RequestedReviewersSnapshot,
    readCompleteCollection .sample request whole = .ok ⟨request, .ok (.requestedReviewers r)⟩ ∧
      readCompleteCollection .sample request split = .ok ⟨request, .ok (.requestedReviewers r')⟩ ∧
      r.reviewers = r'.reviewers ∧ r ≠ r' := by
  obtain ⟨r, hread, hcollects⟩ := exists_reviewers complete_whole not_refuses_whole (by decide)
  obtain ⟨r', hread', hcollects'⟩ := exists_reviewers complete_split not_refuses_split (by decide)
  refine ⟨r, r', hread, hread', ?_, ?_⟩
  · have hitems : r.reviewers.map (fun login => (login, CollectionItem.reviewer login)) =
        r'.reviewers.map fun login => (login, CollectionItem.reviewer login) := hcollects.items.trans hcollects'.items.symm
    simpa [Function.comp_def] using congrArg (List.map Prod.fst) hitems
  · -- the evidence is a digest of the pages
    rintro rfl
    obtain ⟨-, -, -, -, hevidence⟩ := hcollects.reviewers r rfl
    obtain ⟨-, -, -, -, hevidence'⟩ := hcollects'.reviewers r rfl
    exact absurd (hevidence.symm.trans hevidence') (by decide +kernel)

end Roundwright.GitHub
