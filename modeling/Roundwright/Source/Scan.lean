/-
The scan of the configured sources, against any adapter: the pages of a source are read from cursor to cursor, and the
items of all sources are grouped by what identifies their work. A scan that returns has lost no item, whatever the
adapter did, and its inventory says nothing of how the items came in pages.
-/
import Mathlib.Data.Prod.Lex
import Roundwright.Lib.Watch
import Roundwright.Source.Selection

namespace Roundwright.Source

open Lib Dependency

/-! ## Pages -/

def isCursorChar (c : Char) : Bool := c.isAlphanum || c ∈ ['.', '_', '~', '-']

/-- `_CURSOR` -/
def isCursor (text : String) : Bool := headTail isCursorChar isCursorChar 255 text

abbrev Cursor := { text : String // isCursor text = true }

/-- An item of a source, as its adapter shows it. -/
structure SourceItem where
  publicItemId : PublicId
  memberId : Token
  contentDigest : Digest
  mechanicalIdentityDigest : Digest

namespace SourceItem

def payload (i : SourceItem) : Json :=
  .obj [("public_item_id", .str i.publicItemId), ("member_id", .str i.memberId),
    ("content_digest", .digest i.contentDigest), ("mechanical_identity_digest", .digest i.mechanicalIdentityDigest)]

/-- What the items of one normalized item have in common. -/
def key (i : SourceItem) : Digest × Token × Digest := (i.mechanicalIdentityDigest, i.memberId, i.contentDigest)

end SourceItem

structure SourcePage where
  source : ConfiguredSource
  requestedCursor : Option Cursor
  nextCursor : Option Cursor
  items : List SourceItem
  advances : ∀ next, nextCursor = some next → requestedCursor ≠ some next

inductive ScanError (ε : Type) where
  /-- `ConfiguredSourceError` -/
  | source (message : String)
  /-- What the adapter has raised. -/
  | adapter (e : ε)

/-- `read` of an adapter, which may answer anything and raise anything; nothing stands for an answer that is no
`SourcePage`. -/
abbrev ConfiguredSourceAdapter (ε σ : Type) := ConfiguredSource → Option Cursor → Tx (ScanError ε) σ (Option SourcePage)

/-! ## Reading -/

section Reading

variable {ε σ : Type} (adapter : ConfiguredSourceAdapter ε σ)

/-- The loop over the pages of a source. Every pass that goes on has read one more of the pages it may read. -/
def readPages (source : ConfiguredSource) (pages : Nat) (cursor : Option Cursor) (seen : List Cursor) (collected : List SourceItem) :
    Tx (ScanError ε) σ (List SourceItem) := do
  let answer ← adapter source cursor
  let page ← Tx.check (demand (answer.filter fun p => p.source = source ∧ p.requestedCursor = cursor)
    (.source "source adapter identity has drifted"))
  if _bounds : source.maxPages < pages + 1 ∨ source.maxItems < (collected ++ page.items).length then
    Tx.check (.error (.source "configured source bounds exceeded"))
  else
    match page.nextCursor with
    | none => return collected ++ page.items
    | some next =>
      if pages + 1 = source.maxPages then Tx.check (.error (.source "configured source bounds exceeded"))
      else if next ∈ seen then Tx.check (.error (.source "configured source cursor is unsafe"))
      else readPages source (pages + 1) (some next) (seen ++ [next]) (collected ++ page.items)
termination_by source.maxPages - pages
decreasing_by omega

/-- The items of every source, under its identity. -/
def observe : List ConfiguredSource → Tx (ScanError ε) σ (List (PublicId × List SourceItem))
  | [] => return []
  | source :: rest => do
    let collected ← readPages adapter source 0 none [] []
    Tx.check (refuse (¬ (collected.map (·.publicItemId)).Nodup) (.source "configured source repeated an item"))
    let observations ← observe rest
    return (source.publicIdentity, collected) :: observations

end Reading

/-! ## Normalization -/

/-- `NormalizedItem.__post_init__` -/
def NormalizedItem.make (opaqueId : Digest) (memberId : Token) (contentDigest mechanical : Digest)
    (sources : List PublicId) (ambiguous : Bool) : Except String NormalizedItem :=
  if h : sources ≠ [] ∧ sources.Pairwise
    (· ≤ ·) then .ok ⟨opaqueId, memberId, contentDigest, mechanical, sources, ambiguous, h.1, h.2⟩
  else .error "normalized source item is invalid"

/-- `SourceInventory.__post_init__` -/
def SourceInventory.make (binding : SourceIngestionBinding) (digests : List (PublicId × Digest)) (items : List NormalizedItem) :
    Except String SourceInventory :=
  if h : digests.map (·.1) = sortBy id (binding.configuredSources.map (·.publicIdentity)) ∧ (items.map (·.opaqueId)).Nodup then
    .ok ⟨binding, digests, items, h.1, h.2⟩
  else .error "source inventory is invalid"

section Normalize

variable (host : Host) (records : List (PublicId × SourceItem))

/-- `grouped[mechanical]` -/
def groupOf (mechanical : Digest) : List (PublicId × SourceItem) := records.filter fun r => r.2.mechanicalIdentityDigest = mechanical

/-- `content_identities[content_digest]` -/
def contentIdentities (contentDigest : Digest) : List Digest :=
  ((records.filter fun r => r.2.contentDigest = contentDigest).map (·.2.mechanicalIdentityDigest)).dedup

/-- The digest that is looked up at last is any of the set; by then it is the only one. -/
def isAmbiguous (mechanical : Digest) : Bool :=
  let memberIds := ((groupOf records mechanical).map (·.2.memberId)).dedup
  let contentDigests := ((groupOf records mechanical).map (·.2.contentDigest)).dedup
  memberIds.length ≠ 1 || contentDigests.length ≠ 1 || contentDigests.head?.any fun digest =>
    (contentIdentities records digest).length ≠ 1

/-- The keys in the order of the two loops. -/
def keys : List (Digest × Token × Digest) :=
  (sortBy id (records.map (·.2.mechanicalIdentityDigest)).dedup).flatMap fun mechanical =>
    let pairs : List (Token × Digest) := ((groupOf records mechanical).map fun r => (r.2.memberId, r.2.contentDigest)).dedup
    (sortBy (fun pair => toLex pair) pairs).map (mechanical, ·)

/-- The sources of the items with a key, in order and once for each item. -/
def sourcesOf (key : Digest × Token × Digest) : List PublicId :=
  sortBy id (((groupOf records key.1).filter fun r => r.2.memberId = key.2.1 ∧ r.2.contentDigest = key.2.2).map (·.1))

/-- The body of the two loops. -/
def normalizedItem (key : Digest × Token × Digest) : Except String NormalizedItem :=
  let sources := sourcesOf records key
  let opaqueId := host.digestValue (.obj [("mechanical_identity_digest", .digest key.1), ("member_id", .str key.2.1),
    ("content_digest", .digest key.2.2), ("source_identities", .arr (sources.map fun s => .str s.val))])
  NormalizedItem.make opaqueId key.2.1 key.2.2 key.1 sources (isAmbiguous records key.1)

end Normalize

/-- The items with the sources they come from. -/
def recordsOf (observations : List (PublicId × List SourceItem)) : List (PublicId × SourceItem) :=
  observations.flatMap fun o => o.2.map (o.1, ·)

/-- `_normalize` -/
def normalize (host : Host) (binding : SourceIngestionBinding) (observations : List (PublicId × List SourceItem)) :
    Except String SourceInventory := do
  let normalized ← (keys (recordsOf observations)).mapM (normalizedItem host (recordsOf observations))
  SourceInventory.make binding (observations.map fun o =>
    (o.1, host.digestValue (.obj [("items", .arr (o.2.map (·.payload)))])))
      (sortBy (fun i => toLex (i.memberId, i.opaqueId)) normalized)

/-- `scan_configured_sources` -/
def scanConfiguredSources (host : Host) {ε σ : Type} (binding : SourceIngestionBinding) (adapter : ConfiguredSourceAdapter ε σ) :
    Tx (ScanError ε) σ SourceInventory := do
  let observations ← observe adapter (sortBy (·.publicIdentity) binding.configuredSources)
  Tx.check ((normalize host binding observations).mapError .source)

/-! ## What was read -/

/-- A read of an adapter with the page it returned, if it returned one. -/
structure Read where
  source : ConfiguredSource
  cursor : Option Cursor
  page : Option SourcePage

def Read.items (r : Read) : List SourceItem := (r.page.map (·.items)).getD []

/-- The same adapter, whose state also has the reads so far. -/
def watched {ε σ : Type} (adapter : ConfiguredSourceAdapter ε σ) : ConfiguredSourceAdapter ε (σ × List Read) := fun source cursor =>
  Tx.watch (adapter source cursor) fun answer => ⟨source, cursor, answer.join⟩

/-- The reads of one scan. -/
def readsOf (host : Host) {ε σ : Type} (binding : SourceIngestionBinding) (adapter : ConfiguredSourceAdapter ε σ)
    (s : σ) : List Read :=
  (scanConfiguredSources host binding (watched adapter) (s, [])).2.2

/-- The reads of one source. -/
def ofSource (source : ConfiguredSource) (reads : List Read) : List Read := reads.filter fun r => r.source = source

/-- The items that were read from a source, in order. -/
def itemsRead (reads : List Read) (source : ConfiguredSource) : List SourceItem := (ofSource source reads).flatMap Read.items

variable {binding : SourceIngestionBinding}

section Watching

open Tx (shows_check shows_watch)

variable {ε σ : Type} {adapter : ConfiguredSourceAdapter ε σ} {host : Host}

theorem shows_readPages {source : ConfiguredSource} {pages : Nat} {cursor : Option Cursor} {seen : List Cursor}
    {collected : List SourceItem} : Tx.Shows (readPages (watched adapter) source pages cursor seen collected)
      (readPages adapter source pages cursor seen collected) := by
  induction hleft : source.maxPages - pages using Nat.strong_induction_on generalizing pages cursor seen collected with
  | h left ih =>
    have hread : Tx.Shows (watched adapter source cursor) (adapter source cursor) := shows_watch _ _
    rw [readPages, readPages]
    refine hread.bind fun answer => (shows_check _).bind fun page => ?_
    by_cases hbounds : source.maxPages < pages + 1 ∨ source.maxItems < (collected ++ page.items).length
    · rw [dif_pos hbounds, dif_pos hbounds]
      exact shows_check _
    · rw [dif_neg hbounds, dif_neg hbounds]
      cases page.nextCursor with
      | none => exact shows_check (.ok _)
      | some next =>
        dsimp only
        split
        · exact shows_check _
        · split
          · exact shows_check _
          · exact ih _ (by omega) rfl

theorem shows_observe (sources : List ConfiguredSource) : Tx.Shows (observe (watched adapter) sources)
    (observe adapter sources) := by
  induction sources with
  | nil => exact shows_check (.ok [])
  | cons source rest ih =>
    exact shows_readPages.bind fun collected => (shows_check _).bind fun _ => ih.bind fun observations => shows_check (.ok _)

/-- Watching an adapter changes nothing. -/
theorem shows_scan :
    Tx.Shows (scanConfiguredSources host binding (watched adapter)) (scanConfiguredSources host binding adapter) :=
  (shows_observe _).bind fun _ => shows_check _

end Watching

/-! ## Bounds -/

/-- The reads of one source are at most as many as its pages, each with another cursor. -/
structure Bounded (source : ConfiguredSource) (mine : List Read) : Prop where
  pages : mine.length ≤ source.maxPages
  cursors : (mine.map (·.cursor)).Nodup

/-- All reads are of this source, and bounded. -/
structure ReadsOf (source : ConfiguredSource) (mine : List Read) : Prop where
  own : ∀ r ∈ mine, r.source = source
  bounded : Bounded source mine

variable {inventory : SourceInventory}

section Bounds

variable {ε σ : Type} {adapter : ConfiguredSourceAdapter ε σ} {source : ConfiguredSource} {before mine : List Read}
  {pages : Nat} {cursor : Option Cursor} {seen : List Cursor} {collected : List SourceItem}

/-- The reads of a source when the loop is about to read its next page: the cursors so far, and the next one, are the
first page and the cursors that were seen. -/
structure AtPage (source : ConfiguredSource) (pages : Nat) (cursor : Option Cursor) (seen : List Cursor)
    (collected : List SourceItem) (mine : List Read) : Prop where
  own : ∀ r ∈ mine, r.source = source
  length : mine.length = pages
  more : pages < source.maxPages
  cursors : mine.map (·.cursor) ++ [cursor] = none :: seen.map some
  distinct : seen.Nodup
  items : collected = mine.flatMap Read.items

theorem AtPage.start (source : ConfiguredSource) : AtPage source 0 none [] [] [] where
  own := by simp
  length := rfl
  more := source.pages.1
  cursors := rfl
  distinct := List.nodup_nil
  items := rfl

/-- The next read, whatever it returns. -/
theorem AtPage.read (h : AtPage source pages cursor seen collected mine) (page : Option SourcePage) :
    ReadsOf source (mine ++ [⟨source, cursor, page⟩]) := by
  have hcursors : (mine ++ [(⟨source, cursor, page⟩ : Read)]).map (·.cursor) = none :: seen.map some := by
    rw [List.map_append]
    exact h.cursors
  refine ⟨?_, ?_, ?_⟩
  · simp only [List.mem_append, List.mem_singleton, or_imp, forall_and, forall_eq, and_true]
    exact h.own
  · rw [List.length_append, List.length_singleton, h.length]
    exact h.more
  · rw [hcursors, List.nodup_cons]
    refine ⟨by simp, h.distinct.map (Option.some_injective _)⟩

theorem AtPage.next {page : SourcePage} {next : Cursor} (h : AtPage source pages cursor seen collected mine)
    (hmore : pages + 1 < source.maxPages) (hnew : next ∉ seen) :
    AtPage source (pages + 1) (some next) (seen ++ [next]) (collected ++ page.items) (mine ++ [⟨source, cursor, some page⟩]) where
  own := (h.read (some page)).own
  length := by rw [List.length_append, List.length_singleton, h.length]
  more := hmore
  cursors := by
    rw [List.map_append, List.map_append, ← List.cons_append, ← h.cursors]
    rfl
  distinct := h.distinct.append (List.nodup_singleton next) (by simpa using hnew)
  items := by
    rw [List.flatMap_append, ← h.items]
    simp [Read.items]

/-- The loop over the pages of a source. The induction is on the pages that may still be read. -/
theorem readPages_triple (h : AtPage source pages cursor seen collected mine) :
    Tx.Triple (fun s => s.2 = before ++ mine) (readPages (watched adapter) source pages cursor seen collected)
      (fun items s => ∃ mine, (ReadsOf source mine ∧ items = mine.flatMap Read.items) ∧ s.2 = before ++ mine)
      fun _ s => ∃ mine, ReadsOf source mine ∧ s.2 = before ++ mine := by
  induction hleft : source.maxPages - pages using Nat.strong_induction_on generalizing pages cursor seen collected mine with
  | h left ih =>
    rw [readPages]
    -- the read
    refine Tx.Triple.bind (Q := fun answer s => s.2 = before ++ (mine ++ [⟨source, cursor, answer⟩])) ?_ fun answer => ?_
    · refine Tx.watch_triple (P := (· = before ++ mine))
        (Q := fun (answer : Option SourcePage) log => log = before ++ (mine ++ [⟨source, cursor, answer⟩]))
        (E := fun log => ∃ mine, ReadsOf source mine ∧ log = before ++ mine) ?_ ?_
      · rintro answer log rfl
        exact List.append_assoc _ _ _
      · rintro log rfl
        exact ⟨_, h.read none, List.append_assoc _ _ _⟩
    -- its checks
    refine Tx.Triple.bind (Q := fun page s => answer = some page ∧ s.2 = before ++
      (mine ++ [⟨source, cursor, some page⟩])) ?_ fun page => Tx.Triple.of_and fun hpage => ?_
    · refine Tx.Triple.check (fun page hok s hs => ?_) fun _ _ s hs => ⟨_, h.read _, hs⟩
      obtain rfl := (Option.filter_eq_some_iff.1 (demand_eq_ok.1 hok)).1
      exact ⟨rfl, hs⟩
    have hfail : ∀ {m : ScanError ε},
        Tx.Triple (fun s : σ × List Read => s.2 = before ++ (mine ++ [⟨source, cursor, some page⟩]))
          (Tx.check (.error m)) (fun items s => ∃ mine, (ReadsOf source mine ∧ items = mine.flatMap Read.items) ∧
            s.2 = before ++ mine)
        fun _ s => ∃ mine, ReadsOf source mine ∧ s.2 = before ++ mine := fun {m} =>
      Tx.Triple.check (fun _ hok => nomatch hok) fun _ _ s hs => ⟨_, h.read _, hs⟩
    by_cases hbounds : source.maxPages < pages + 1 ∨ source.maxItems < (collected ++ page.items).length
    · rw [dif_pos hbounds]
      exact hfail
    · rw [dif_neg hbounds]
      cases hnext : page.nextCursor with
      | none =>
        refine Tx.Triple.pure fun s hs => ⟨_, ⟨h.read _, ?_⟩, hs⟩
        rw [List.flatMap_append, ← h.items]
        simp [Read.items]
      | some next =>
        dsimp only
        split
        · exact hfail
        · split
          · exact hfail
          · rename_i hmore hnew
            exact ih _ (by omega) (h.next (by omega) hnew) rfl

/-- All reads are of these sources, and bounded for each. -/
structure Observes (sources : List ConfiguredSource) (reads : List Read) : Prop where
  own : ∀ r ∈ reads, r.source ∈ sources
  bounded : ∀ source, Bounded source (ofSource source reads)

theorem ofSource_append (source : ConfiguredSource) (l m : List Read) :
    ofSource source (l ++ m) = ofSource source l ++ ofSource source m := List.filter_append ..

theorem ofSource_none {l : List Read} (h : ∀ r ∈ l, r.source ≠ source) : ofSource source l = [] :=
  List.filter_eq_nil_iff.2 fun r hr => by simpa using h r hr

theorem ReadsOf.ofSource_self (h : ReadsOf source mine) : ofSource source mine = mine :=
  List.filter_eq_self.2 fun r hr => by simpa using h.own r hr

theorem ReadsOf.ofSource_other {other : ConfiguredSource} (h : ReadsOf source mine) (hne : other ≠ source) :
    ofSource other mine = [] :=
  ofSource_none fun r hr => by rw [h.own r hr]; exact hne.symm

variable {sources rest : List ConfiguredSource} {more : List Read}

theorem observes_nil : Observes sources [] where
  own := by simp
  bounded _ := ⟨Nat.zero_le _, List.nodup_nil⟩

theorem Observes.ofSource_new (h : Observes rest more) (hnew : source ∉ rest) : ofSource source more = [] :=
  ofSource_none fun r hr heq => hnew (by rw [← heq]; exact h.own r hr)

theorem ReadsOf.observes (h : ReadsOf source mine) (hrest : Observes rest more) (hnew : source ∉ rest) :
    Observes (source :: rest) (mine ++ more) where
  own := by
    simp only [List.mem_append, or_imp, forall_and]
    refine ⟨fun r hr => ?_, fun r hr => List.mem_cons_of_mem _ (hrest.own r hr)⟩
    rw [h.own r hr]
    exact List.mem_cons_self
  bounded other := by
    rw [ofSource_append]
    by_cases hother : other = source
    · subst hother
      rw [h.ofSource_self, hrest.ofSource_new hnew, List.append_nil]
      exact h.bounded
    · rw [h.ofSource_other hother]
      exact hrest.bounded other

theorem ReadsOf.itemsRead_self (h : ReadsOf source mine) (hrest : Observes rest more) (hnew : source ∉ rest) :
    itemsRead (mine ++ more) source = mine.flatMap Read.items := by
  rw [itemsRead, ofSource_append, h.ofSource_self, hrest.ofSource_new hnew, List.append_nil]

theorem ReadsOf.itemsRead_other {other : ConfiguredSource} (h : ReadsOf source mine) (hne : other ≠ source) :
    itemsRead (mine ++ more) other = itemsRead more other := by
  rw [itemsRead, ofSource_append, h.ofSource_other hne]
  rfl

/-- The scan reads one source after the other. -/
theorem observe_triple (hsources : sources.Nodup) :
    Tx.Triple (fun s => s.2 = before) (observe (watched adapter) sources)
      (fun observations s => ∃ more, (Observes sources more ∧
        observations = sources.map fun source => (source.publicIdentity, itemsRead more source)) ∧ s.2 = before ++ more)
      fun _ s => ∃ more, Observes sources more ∧ s.2 = before ++ more := by
  induction sources generalizing before with
  | nil => exact Tx.Triple.pure fun s hs => ⟨[], ⟨observes_nil, rfl⟩, by rw [hs, List.append_nil]⟩
  | cons source rest ih =>
    obtain ⟨hnew, hrest⟩ := List.nodup_cons.1 hsources
    have hfail : ∀ {mine : List Read} {s : σ × List Read}, ReadsOf source mine → s.2 = before ++ mine →
        ∃ more, Observes (source :: rest) more ∧ s.2 = before ++ more := fun {mine s} hmine hs =>
      ⟨mine ++ [], hmine.observes observes_nil hnew, by rw [List.append_nil, hs]⟩
    have hpages := @readPages_triple _ _ adapter _ before _ _ _ _ _ (AtPage.start source)
    rw [List.append_nil] at hpages
    refine Tx.Triple.bind (hpages.mono (fun _ hs => hs) (fun _ _ hs => hs) fun _ s ⟨mine, hmine, hs⟩ => hfail hmine hs)
      fun collected => Tx.Triple.of_exists fun mine => Tx.Triple.of_and fun ⟨hmine, hitems⟩ => ?_
    -- no item twice
    refine Tx.Triple.bind (Q := fun _ s => s.2 = before ++ mine) ?_ fun _ => ?_
    · exact Tx.Triple.check (fun _ _ s hs => hs) fun _ _ s hs => hfail hmine hs
    refine Tx.Triple.bind ((ih hrest).mono (fun _ hs => hs) (fun _ _ hs => hs) ?_) fun observations => ?_
    · rintro e s ⟨more, hmore, hs⟩
      exact ⟨mine ++ more, hmine.observes hmore hnew, by rw [hs, List.append_assoc]⟩
    · refine Tx.Triple.pure fun s ⟨more, ⟨hmore, hobservations⟩, hs⟩ => ⟨mine ++ more, ⟨hmine.observes hmore hnew, ?_⟩, ?_⟩
      · rw [List.map_cons, hmine.itemsRead_self hmore hnew, hitems, hobservations]
        congr 1
        refine List.map_congr_left fun other hother => ?_
        rw [hmine.itemsRead_other fun heq => hnew (heq ▸ hother)]
      · rw [hs, List.append_assoc]

/-! ### The scan -/

variable {host : Host} {binding : SourceIngestionBinding} {s : σ}

theorem nodup_sources (binding : SourceIngestionBinding) : (sortBy (·.publicIdentity) binding.configuredSources).Nodup :=
  (sortBy_perm _ _).nodup_iff.2 binding.identities.of_map

/-- However a scan ends, it has read the configured sources within their bounds. -/
theorem observes_readsOf (host : Host) (binding : SourceIngestionBinding) (adapter : ConfiguredSourceAdapter ε σ) (s : σ) :
    Observes binding.configuredSources (readsOf host binding adapter s) := by
  have hscan : Tx.Triple (fun s : σ × List Read => s.2 = []) (scanConfiguredSources host binding (watched adapter))
      (fun _ s => Observes (sortBy (·.publicIdentity) binding.configuredSources) s.2)
      fun _ s => Observes (sortBy (·.publicIdentity) binding.configuredSources) s.2 := by
    refine Tx.Triple.bind ((observe_triple (nodup_sources binding)).mono (fun _ hs => hs) (fun _ _ hs => hs) ?_)
      fun observations => ?_
    · rintro e s ⟨more, hmore, hs⟩
      rw [hs]
      exact hmore
    · refine Tx.Triple.check (fun _ _ s ⟨more, hmore, hs⟩ => ?_) fun _ _ s ⟨more, hmore, hs⟩ => ?_
      · rw [hs]
        exact hmore.1
      · rw [hs]
        exact hmore.1
  obtain ⟨hown, hbounded⟩ := hscan.state (s := (s, [])) rfl
  exact ⟨fun r hr => mem_sortBy.1 (hown r hr), hbounded⟩

theorem mapError_eq_ok {α δ : Type} {x : Except δ α} {f : δ → ScanError ε} {a : α} : x.mapError f = .ok a ↔ x = .ok a := by
  cases x <;> simp [Except.mapError]

/-- A scan that returns has normalized the items it has read. -/
theorem scan_ok (h : (scanConfiguredSources host binding adapter s).1 = .ok inventory) :
    normalize host binding ((sortBy (·.publicIdentity) binding.configuredSources).map fun source =>
      (source.publicIdentity, itemsRead (readsOf host binding adapter s) source)) = .ok inventory := by
  rw [← shows_scan.fst s []] at h
  rcases hobserve : observe (watched adapter) (sortBy (·.publicIdentity) binding.configuredSources)
    (s, []) with ⟨e | observations, t⟩
  · have hrun : scanConfiguredSources host binding (watched adapter) (s, []) = (.error e, t) := by
      simp only [scanConfiguredSources, Bind.bind, hobserve]
    rw [hrun] at h
    cases h
  · have hrun : scanConfiguredSources host binding (watched adapter) (s, []) =
        ((normalize host binding observations).mapError .source, t) := by
      simp only [scanConfiguredSources, Bind.bind, hobserve, Tx.check]
    obtain ⟨more, ⟨-, hobservations⟩, ht⟩ := (observe_triple (nodup_sources binding)).ok rfl hobserve
    have hreads : readsOf host binding adapter s = more := by
      rw [readsOf, hrun]
      exact ht
    rw [hrun] at h
    rw [hreads, ← hobservations]
    exact mapError_eq_ok.1 h

end Bounds

/-! ## Inventories -/

def NormalizedItem.key (n : NormalizedItem) : Digest × Token × Digest := (n.mechanicalIdentityDigest, n.memberId, n.contentDigest)

/-- The normalized item stands for an item: they agree on mechanical identity, member and content. -/
def NormalizedItem.Represents (n : NormalizedItem) (item : SourceItem) : Prop := n.key = item.key

/-- What an inventory says of the items that were read, each with the source it was read from. -/
structure Faithful (records : List (PublicId × SourceItem)) (inventory : SourceInventory) : Prop where
  represented : ∀ r ∈ records, ∃! n, n ∈ inventory.items ∧ n.Represents r.2
  merged : ∀ r ∈ records, ∀ r' ∈ records, (∃ n ∈ inventory.items, n.Represents r.2 ∧ n.Represents r'.2) ↔ r.2.key = r'.2.key
  sources : ∀ n ∈ inventory.items, ∀ identity, identity ∈ n.sourceIdentities ↔ ∃ item, (identity, item) ∈ records ∧ n.Represents item
  unambiguous : ∀ n ∈ inventory.items, n.ambiguous = false ↔
    (∀ r ∈ records, r.2.mechanicalIdentityDigest = n.mechanicalIdentityDigest → n.Represents r.2) ∧
    ∀ r ∈ records, r.2.contentDigest = n.contentDigest → r.2.mechanicalIdentityDigest = n.mechanicalIdentityDigest

variable {r : PublicId × SourceItem} {observations : List (PublicId × List SourceItem)}

section Inventories

variable {host : Host} {records : List (PublicId × SourceItem)} {key : Digest × Token × Digest} {n : NormalizedItem}

theorem mem_groupOf {mechanical : Digest} :
    r ∈ groupOf records mechanical ↔ r ∈ records ∧ r.2.mechanicalIdentityDigest = mechanical := by
  simp [groupOf]

theorem mem_keys : key ∈ keys records ↔ ∃ r ∈ records, r.2.key = key := by
  obtain ⟨mechanical, memberId, contentDigest⟩ := key
  simp only [keys, List.mem_flatMap, List.mem_map, mem_sortBy, List.mem_dedup, mem_groupOf, SourceItem.key]
  constructor
  · rintro ⟨_, -, _, ⟨r, ⟨hr, rfl⟩, rfl⟩, heq⟩
    exact ⟨r, hr, heq⟩
  · rintro ⟨r, hr, heq⟩
    exact ⟨_, ⟨r, hr, rfl⟩, _, ⟨r, ⟨hr, rfl⟩, rfl⟩, heq⟩

theorem mem_sourcesOf {identity : PublicId} :
    identity ∈ sourcesOf records key ↔ ∃ item, (identity, item) ∈ records ∧ item.key = key := by
  obtain ⟨mechanical, memberId, contentDigest⟩ := key
  simp only [sourcesOf, mem_sortBy, List.mem_map, List.mem_filter, mem_groupOf, SourceItem.key, decide_eq_true_eq, Prod.mk.injEq]
  constructor
  · rintro ⟨⟨_, item⟩, ⟨⟨hr, hmechanical⟩, hmember, hcontent⟩, rfl⟩
    exact ⟨item, hr, hmechanical, hmember, hcontent⟩
  · rintro ⟨item, hr, hmechanical, hmember, hcontent⟩
    exact ⟨(identity, item), ⟨⟨hr, hmechanical⟩, hmember, hcontent⟩, rfl⟩

/-- A set with a known element has no other one. -/
theorem dedup_length {α : Type} [DecidableEq α] {l : List α} {a : α} (ha : a ∈ l) : l.dedup.length = 1 ↔ ∀ b ∈ l, b = a := by
  have hpos : 0 < l.dedup.length := List.length_pos_of_mem (List.mem_dedup.2 ha)
  have halone := Nodup.length_of_mem l.nodup_dedup (List.mem_dedup.2 ha)
  simp only [List.mem_dedup] at halone
  rw [← halone]
  omega

theorem isAmbiguous_eq_false (hr : r ∈ records) : isAmbiguous records r.2.mechanicalIdentityDigest = false ↔
    (∀ r' ∈ records, r'.2.mechanicalIdentityDigest = r.2.mechanicalIdentityDigest → r'.2.key = r.2.key) ∧
    ∀ r' ∈ records, r'.2.contentDigest = r.2.contentDigest → r'.2.mechanicalIdentityDigest = r.2.mechanicalIdentityDigest := by
  have hgroup : r ∈ groupOf records r.2.mechanicalIdentityDigest := mem_groupOf.2 ⟨hr, rfl⟩
  have hmembers := dedup_length (List.mem_map_of_mem (f := fun r : PublicId × SourceItem => r.2.memberId) hgroup)
  have hcontents := dedup_length (List.mem_map_of_mem (f := fun r : PublicId × SourceItem => r.2.contentDigest) hgroup)
  rw [List.forall_mem_map] at hmembers hcontents
  have hidentities : (contentIdentities records r.2.contentDigest).length = 1 ↔
      ∀ r' ∈ records, r'.2.contentDigest = r.2.contentDigest → r'.2.mechanicalIdentityDigest = r.2.mechanicalIdentityDigest := by
    have hmem : r ∈ records.filter fun r' => r'.2.contentDigest = r.2.contentDigest := by simpa using hr
    have hlength := dedup_length (List.mem_map_of_mem (f := fun r : PublicId × SourceItem => r.2.mechanicalIdentityDigest) hmem)
    rw [contentIdentities, hlength, List.forall_mem_map]
    simp only [List.mem_filter, decide_eq_true_eq, and_imp]
  -- the digest that is looked up is the content of the item
  have hlookup : (∀ r' ∈ groupOf records r.2.mechanicalIdentityDigest, r'.2.contentDigest = r.2.contentDigest) →
      ((groupOf records r.2.mechanicalIdentityDigest).map (·.2.contentDigest)).dedup = [r.2.contentDigest] := by
    intro hsame
    obtain ⟨digest, hdigest⟩ := List.length_eq_one_iff.1 (hcontents.2 hsame)
    have hmem : r.2.contentDigest ∈ [digest] := hdigest ▸ List.mem_dedup.2 (List.mem_map_of_mem hgroup)
    rw [hdigest, List.mem_singleton.1 hmem]
  simp only [isAmbiguous, Bool.or_eq_false_iff, decide_eq_false_iff_not, not_not, hmembers, hcontents]
  constructor
  · rintro ⟨⟨hmember, hcontent⟩, hunique⟩
    rw [hlookup hcontent] at hunique
    have hunique : (contentIdentities records r.2.contentDigest).length = 1 := by simpa using hunique
    refine ⟨fun r' hr' hmechanical => ?_, hidentities.1 hunique⟩
    have hr' := mem_groupOf.2 ⟨hr', hmechanical⟩
    exact Prod.ext hmechanical (Prod.ext (hmember r' hr') (hcontent r' hr'))
  · rintro ⟨hkey, hunique⟩
    have hkey : ∀ r' ∈ groupOf records r.2.mechanicalIdentityDigest, r'.2.key = r.2.key := fun r' hr' =>
      hkey r' (mem_groupOf.1 hr').1 (mem_groupOf.1 hr').2
    have hcontent : ∀ r' ∈ groupOf records r.2.mechanicalIdentityDigest, r'.2.contentDigest = r.2.contentDigest := fun r' hr' =>
      congrArg (·.2.2) (hkey r' hr')
    refine ⟨⟨fun r' hr' => congrArg (·.2.1) (hkey r' hr'), hcontent⟩, ?_⟩
    rw [hlookup hcontent]
    simpa using hidentities.2 hunique

theorem normalizedItem_ok (h : normalizedItem host records key = .ok n) :
    n.key = key ∧ n.sourceIdentities = sourcesOf records key ∧ n.ambiguous = isAmbiguous records key.1 := by
  simp only [normalizedItem, NormalizedItem.make] at h
  split at h
  · cases h
    exact ⟨rfl, rfl, rfl⟩
  · cases h

theorem normalize_ok
    (h : normalize host binding observations = .ok inventory) :
    ∃ normalized, (keys (recordsOf observations)).mapM (normalizedItem host (recordsOf observations)) = .ok normalized ∧
      inventory.binding = binding ∧
      inventory.sourceContentDigests =
        observations.map (fun o => (o.1, host.digestValue (.obj [("items", .arr (o.2.map (·.payload)))]))) ∧
      inventory.items = sortBy (fun i => toLex (i.memberId, i.opaqueId)) normalized := by
  rw [normalize, bind_eq_ok] at h
  obtain ⟨normalized, hnormalized, h⟩ := h
  unfold SourceInventory.make at h
  split at h
  · cases h
    exact ⟨normalized, hnormalized, rfl, rfl, rfl⟩
  · cases h

theorem normalize_faithful
    (h : normalize host binding observations = .ok inventory) :
    Faithful (recordsOf observations) inventory := by
  obtain ⟨normalized, hnormalized, -, -, hitems⟩ := normalize_ok h
  obtain ⟨hfrom, hall⟩ := mem_of_mapM_ok hnormalized
  have hmem : ∀ {n}, n ∈ inventory.items ↔ n ∈ normalized := by
    intro n
    rw [hitems, mem_sortBy]
  have hitem : ∀ {n}, n ∈ inventory.items → n.key ∈ keys (recordsOf observations) ∧
      normalizedItem host (recordsOf observations) n.key = .ok n := by
    intro n hn
    obtain ⟨key, hkey, hn⟩ := hfrom n (hmem.1 hn)
    obtain ⟨rfl, -⟩ := normalizedItem_ok hn
    exact ⟨hkey, hn⟩
  have hexists : ∀ r ∈ recordsOf observations, ∃ n ∈ inventory.items, n.Represents r.2 := by
    intro r hr
    obtain ⟨n, hn, hok⟩ := hall r.2.key (mem_keys.2 ⟨r, hr, rfl⟩)
    exact ⟨n, hmem.2 hn, (normalizedItem_ok hok).1⟩
  -- both ways: a record has its item, and an item is of a record
  refine ⟨fun r hr => ?_, fun r hr r' hr' => ⟨?_, fun hkey => ?_⟩, fun n hn identity => ?_, fun n hn => ?_⟩
  · obtain ⟨n, hn, hr⟩ := hexists r hr
    refine ⟨n, ⟨hn, hr⟩, fun other ⟨hother, hr'⟩ => ?_⟩
    have hsame := (hitem hother).2
    rw [show other.key = n.key from hr'.trans hr.symm, (hitem hn).2] at hsame
    exact (Except.ok.inj hsame).symm
  · rintro ⟨n, -, hr, hr'⟩
    exact hr.symm.trans hr'
  · obtain ⟨n, hn, hr⟩ := hexists r hr
    exact ⟨n, hn, hr, hr.trans hkey⟩
  · rw [(normalizedItem_ok (hitem hn).2).2.1, mem_sourcesOf]
    simp only [NormalizedItem.Represents, eq_comm]
  · obtain ⟨r, hr, hkey⟩ := mem_keys.1 (hitem hn).1
    have hmechanical : n.mechanicalIdentityDigest = r.2.mechanicalIdentityDigest := congrArg (·.1) hkey.symm
    have hcontent : n.contentDigest = r.2.contentDigest := congrArg (·.2.2) hkey.symm
    rw [(normalizedItem_ok (hitem hn).2).2.2]
    show isAmbiguous _ n.mechanicalIdentityDigest = false ↔ _
    rw [hmechanical, isAmbiguous_eq_false hr, hcontent]
    simp only [NormalizedItem.Represents, ← hkey, eq_comm]

end Inventories

/-! ## The scan -/

/-- The items that were read from the configured sources, each with its source. -/
def readItems (binding : SourceIngestionBinding) (reads : List Read) : List (PublicId × SourceItem) :=
  binding.configuredSources.flatMap fun source => (itemsRead reads source).map (source.publicIdentity, ·)

/-- The same binding, with its sources configured in another order. -/
structure SourceIngestionBinding.Reorders (b b' : SourceIngestionBinding) : Prop where
  candidateSha : b'.candidateSha = b.candidateSha
  policyDigest : b'.policyDigest = b.policyDigest
  configurationDigest : b'.configurationDigest = b.configurationDigest
  configuredSources : b'.configuredSources.Perm b.configuredSources

/-- The inventories agree in everything but the order of the configured sources. -/
structure SourceInventory.SameAs (host : Host) (i i' : SourceInventory) : Prop where
  items : i'.items = i.items
  sourceContentDigests : i'.sourceContentDigests = i.sourceContentDigests
  inventoryDigest : i'.inventoryDigest host = i.inventoryDigest host

theorem Faithful.congr {records records' : List (PublicId × SourceItem)}
    (h : Faithful records inventory) (hsame : ∀ r, r ∈ records' ↔ r ∈ records) : Faithful records' inventory where
  represented := by simpa only [hsame] using h.represented
  merged := by simpa only [hsame] using h.merged
  sources := by simpa only [hsame] using h.sources
  unambiguous := by simpa only [hsame] using h.unambiguous

section Scan

variable {host : Host} {ε ε' σ σ' : Type} {binding binding' : SourceIngestionBinding}

theorem SourceIngestionBinding.Reorders.sorted (h : binding.Reorders binding') :
    sortBy (·.publicIdentity) binding'.configuredSources = sortBy (·.publicIdentity) binding.configuredSources :=
  sortBy_congr h.configuredSources binding'.identities

theorem SourceIngestionBinding.Reorders.sourceSetDigest (h : binding.Reorders binding') :
    binding'.sourceSetDigest host = binding.sourceSetDigest host := by
  rw [SourceIngestionBinding.sourceSetDigest, SourceIngestionBinding.sourceSetDigest, h.sorted]

theorem inventoryDigest_congr {i i' : SourceInventory} (hitems : i'.items = i.items)
    (hdigests : i'.sourceContentDigests = i.sourceContentDigests) (h : i.binding.Reorders i'.binding) :
    i'.inventoryDigest host = i.inventoryDigest host := by
  rw [SourceInventory.inventoryDigest, SourceInventory.payload, h.candidateSha, h.policyDigest, h.configurationDigest,
    h.sourceSetDigest, hdigests, hitems]
  rfl

theorem mem_readItems {reads : List Read} : r ∈ readItems binding reads ↔
    r ∈ recordsOf ((sortBy (·.publicIdentity) binding.configuredSources).map fun source =>
      (source.publicIdentity, itemsRead reads source)) := by
  simp only [readItems, recordsOf, List.mem_flatMap, List.mem_map, mem_sortBy]
  constructor
  · rintro ⟨source, hsource, item, hitem, rfl⟩
    exact ⟨_, ⟨source, hsource, rfl⟩, item, hitem, rfl⟩
  · rintro ⟨_, ⟨source, hsource, rfl⟩, item, hitem, rfl⟩
    exact ⟨source, hsource, item, hitem, rfl⟩

end Scan

namespace Sample

theorem tenBounded : 1 ≤ 10 ∧ 10 ≤ 100000 := by decide

theorem task_isToken : isToken "task" = true := by decide

def feed (name : String) (h : isPublicId name = true := by decide) : ConfiguredSource :=
  ⟨.taskFeed, ⟨name, h⟩, 2, 10, by decide, tenBounded⟩

/-- Two feeds, of which the first has two pages. -/
def feeds : SourceIngestionBinding :=
  ⟨.ofNat 40 1, .sha256 (.ofNat 64 1), .sha256 (.ofNat 64 2), [feed "team/two", feed "team/one"], by decide, by decide⟩

def work (name : String) (n : Nat) (h : isPublicId name = true := by decide) : SourceItem :=
  ⟨⟨name, h⟩, ⟨"task", task_isToken⟩, .sha256 (.ofNat 64 n), .sha256 (.ofNat 64 n)⟩

def rest : Cursor := ⟨"page-2", by decide⟩

def pages : ConfiguredSourceAdapter Unit Unit := fun source cursor => pure (
  if source = feed "team/two" then some ⟨source, cursor, none, [work "item/c" 3], by simp⟩
  else if cursor = none then some ⟨source, none, some rest, [work "item/a" 3], by simp⟩
  else some ⟨source, cursor, none, [work "item/b" 4], by simp⟩)

theorem readPages_one : readPages pages (feed "team/one") 0 none [] [] () = (.ok [work "item/a" 3, work "item/b" 4], ()) := by
  rw [readPages]
  show readPages pages (feed "team/one") 1 (some rest) [rest] [work "item/a" 3] () = _
  rw [readPages]
  rfl

theorem readPages_two : readPages pages (feed "team/two") 0 none [] [] () = (.ok [work "item/c" 3], ()) := by
  rw [readPages]
  rfl

/-- What the scan reads. -/
def shown : List (PublicId × List SourceItem) :=
  [((feed "team/one").publicIdentity, [work "item/a" 3, work "item/b" 4]), ((feed "team/two").publicIdentity, [work "item/c" 3])]

theorem pages_observed : observe pages [feed "team/one", feed "team/two"] () = (.ok shown, ()) := by
  have hone : refuse (¬ ([work "item/a" 3, work "item/b" 4].map (·.publicItemId)).Nodup)
      (ScanError.source (ε := Unit) "configured source repeated an item") = .ok () := refuse_of_not (by decide)
  have htwo : refuse (¬ ([work "item/c" 3].map (·.publicItemId)).Nodup)
      (ScanError.source (ε := Unit) "configured source repeated an item") = .ok () := refuse_of_not (by decide)
  simp only [observe, Bind.bind, readPages_one, Tx.check, hone, readPages_two, htwo]
  rfl

theorem pages_scanned : ∃ inventory, (scanConfiguredSources .sample feeds pages ()).1 = .ok inventory := by
  have hsorted : sortBy (·.publicIdentity) feeds.configuredSources = [feed "team/one", feed "team/two"] := by decide +kernel
  have hnormalized : (normalize .sample feeds shown).toBool = true := by decide +kernel
  rw [scanConfiguredSources, hsorted]
  simp only [Bind.bind, pages_observed, Tx.check]
  cases h : normalize .sample feeds shown with
  | error e =>
    rw [h] at hnormalized
    cases hnormalized
  | ok inventory => exact ⟨inventory, rfl⟩

end Sample

end Roundwright.Source
