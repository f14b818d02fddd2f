/-
The file store of runtime bindings when its process dies, and when other processes run the same call. A directory that
was made and not filled stays in the way of every later call; but no process reads what another is still writing, and
what was returned once is there.
-/
import Roundwright.Lib.Exclusive
import Roundwright.State.RuntimeReturn

namespace Roundwright.State.FileStore

open Lib Lib.JsonText

variable {F : Type} [DecidableEq F] {host : Host} {floats : Floats F} {source : Digest} {π τ : Type} {p : π}
  {b : RuntimeBinding} {call : PersistCall} {r : SupervisorRuntimeBindingReceipt} {root : Root π}

/-! ## A process that dies -/

variable (host floats source) in
/-- The call can be repeated from this root: it returns the receipt, and in its window the receipt is then read as the
binding. -/
def Repeats (environment : FileStep → τ → Nat × τ) (e : τ) (p : π) (b : RuntimeBinding) (call : PersistCall)
    (r : SupervisorRuntimeBindingReceipt) (root : Root π) : Prop :=
  (persistAlone environment host floats source p e b call root).1 = .ok r ∧
  ∀ time, r.readyAt ≤ time → time ≤ r.freshnessUntil →
    contents host floats source r time (persistAlone environment host floats source p e b call root).2 = .ok b

variable {environment : FileStep → τ → Nat × τ} {e : τ}

omit [DecidableEq F] in
/-- The text of a binding decodes to it exactly when its policy digest is right. -/
theorem decodes_self (hrecord : record host floats source b call = .ok r) :
    Decodes host floats source r (b.canonicalMaterial floats) b ↔ b.reviewPolicyDigest = b.policyDigest host := by
  constructor
  · intro h
    exact policyDigest_of_fromCanonical host floats h.binding
  · intro hpolicy
    refine ⟨(fromCanonical_canonicalMaterial host floats b b).2 ⟨rfl, hpolicy⟩, ?_⟩
    rw [(call_of_record hrecord).1]
    exact hrecord

/-- Where the record is kept, the call can be repeated exactly when what is kept decodes to the binding. -/
theorem repeats_of_keeps (hrecord : record host floats source b call = .ok r) {text : String} (h : Keeps floats root r text) :
    Repeats host floats source environment e p b call r root ↔ Decodes host floats source r text b := by
  obtain ⟨entry, hentry⟩ := exists_of_keeps h
  obtain ⟨hstate, hresult⟩ := @persistAlone_found _ _ _ _ _ _ p _ _ _ _ _ environment e hrecord _ hentry
  rw [Repeats, hstate, hresult]
  constructor
  · rintro ⟨-, hread⟩
    exact ((contents_of_keeps h).1 (hread r.readyAt (le_refl _) r.window.2)).2
  · intro hdecodes
    have hread : ∀ time, r.readyAt ≤ time → time ≤ r.freshnessUntil → contents host floats source r time root = .ok b :=
      fun time hready hfresh => (contents_of_keeps h).2 ⟨⟨hready, hfresh⟩, hdecodes⟩
    exact ⟨⟨rfl, b, hread _ (le_refl _) r.window.2, by simp [RuntimeBinding.same]⟩, hread⟩

variable {items : List (String × Item)}

/-- A directory without a receipt is not complete. -/
theorem listing_making {q : π} (hroot : root r.recordIdentity = some (.folder q items))
    (hmaking : items.lookup receiptFile = none) : listing r.recordIdentity root =
    .error "supervisor runtime record is incomplete" := by
  rw [listing, safePath_eq hroot, hroot]
  simp [complete, hmaking, refuse]

/-- A directory without a receipt is in the way of the call. -/
theorem not_repeats_making (hrecord : record host floats source b call = .ok r) {q : π}
    (hroot : root r.recordIdentity = some (.folder q items)) (hmaking : items.lookup receiptFile = none) :
    ¬ Repeats host floats source environment e p b call r root := by
  rintro ⟨hresult, -⟩
  obtain ⟨-, b', hread, -⟩ := ((persistAlone_found hrecord hroot).2 r).1 hresult
  obtain ⟨-, text, hkeeps, -⟩ := contents_eq_ok.1 hread
  have hlisted := hkeeps.listed
  rw [listing_making hroot hmaking] at hlisted
  cases hlisted

theorem repeats_new (hrecord : record host floats source b call = .ok r) (hnew : root r.recordIdentity = none) :
    Repeats host floats source environment e p b call r root ↔ b.reviewPolicyDigest = b.policyDigest host := by
  rw [Repeats, persistAlone_new hrecord hnew, ← decodes_self hrecord]
  constructor
  · rintro ⟨-, hread⟩
    exact ((contents_of_keeps keeps_withRecord).1 (hread r.readyAt (le_refl _) r.window.2)).2
  · intro hdecodes
    exact ⟨rfl, fun time hready hfresh => (contents_of_keeps keeps_withRecord).2 ⟨⟨hready, hfresh⟩, hdecodes⟩⟩

/-- Where there is no record the call has a run that returns. -/
theorem ends_new (hrecord : record host floats source b call = .ok r) (hnew : root r.recordIdentity = none) :
    Proc.Ends (fun _ => True) (persist host floats source p b call) root (.ok r) (withRecord floats p root b r) := by
  have halone : persistAlone (fun _ (e : Unit) => (0, e)) host floats source p () b call root = _ := persistAlone_new hrecord hnew
  have hends := Proc.ends_respond (fun _ (e : Unit) => (0, e)) (persist host floats source p b call) root ()
  have hresult : (Proc.respond (fun _ (e : Unit) => (0, e)) (persist host floats source p b call) root ()).1 = .ok r :=
    (Prod.mk.inj halone).1
  have hroot : (Proc.respond (fun _ (e : Unit) => (0, e)) (persist host floats source p b call) root ()).2.1 =
    withRecord floats p root b r :=
    (Prod.mk.inj halone).2
  rw [hresult, hroot] at hends
  exact hends

/-- A call that returns has found the record or has made it. -/
theorem persist_passes {s d t : Root π} (h : Script.Passes (fun _ => True) (persist host floats source p b call) s d (.ok r) t) :
    record host floats source b call = .ok r ∧
    ((d = s ∧ t = s ∧ ∃ b', contents host floats source r r.readyAt s = .ok b') ∨
      (s r.recordIdentity = none ∧ t = withRecord floats p s b r ∧
        (d = s ∨ d = t ∨ ∃ items, d r.recordIdentity = some (.folder p items) ∧ items.lookup receiptFile = none))) := by
  cases haccept : accept host floats source b call with
  | error er =>
    have hwalk : Script.Walks (fun _ => True) (fun result _ => result = .error er) (persist host floats source p b call) s :=
      Script.Walks.check_error haccept trivial rfl
    cases (Proc.Walks.ends hwalk h.ends).2
  | ok r' =>
    have hrecord := accept_eq_ok.1 haccept
    cases hentry : s r'.recordIdentity with
    | none =>
      have hwalk := walks_new (p := p) (D := fun d => d = s ∨ d = withRecord floats p s b r' ∨
        ∃ items, d r'.recordIdentity = some (.folder p items) ∧ items.lookup receiptFile = none) hrecord hentry (.inl rfl)
        (fun items hitems => .inr (.inr ⟨items, Function.update_self _ _ _, hitems⟩)) (.inr (.inl rfl))
      obtain ⟨hresult, rfl⟩ := (Proc.Walks.ends hwalk h.ends).2
      obtain rfl := Except.ok.inj hresult
      have hd := Proc.Walks.passes hwalk h
      exact ⟨hrecord, .inr ⟨hentry, rfl, hd⟩⟩
    | some entry =>
      have hwalk := walks_found (p := p) (D := fun d => d = s) (Q := fun result _ => result = (do
        safePath s r'.recordIdentity
        let stored ← contents host floats source r' r'.readyAt s
        refuse (stored.same b = false) "supervisor runtime record has drifted"
        return r')) hrecord hentry rfl rfl
      obtain ⟨ht, hresult⟩ := Proc.Walks.ends hwalk h.ends
      have hd := Proc.Walks.passes hwalk h
      have hresult := hresult.symm
      simp only [bind_eq_ok, exists_unit, pure_eq_ok] at hresult
      obtain ⟨-, b', hread, -, rfl⟩ := hresult
      exact ⟨hrecord, .inl ⟨hd, ht, b', hread⟩⟩

/-- A call that returns can be repeated after its process died on the way exactly when the process had not begun or was
done, and the policy digest of the binding is right. -/
theorem repeats_iff {s d t : Root π} {q : π}
    (h : Script.Passes (fun _ => True) (persist host floats source p b call) s d (.ok r) t)
    (hfree : ∀ b', contents host floats source r r.readyAt s = .ok b' →
      host.hexdigest (b'.canonicalMaterial floats) = host.hexdigest (b.canonicalMaterial floats) →
      b'.canonicalMaterial floats = b.canonicalMaterial floats) :
    Repeats host floats source environment e q b call r d ↔ (d = s ∨ d = t) ∧ b.reviewPolicyDigest = b.policyDigest host := by
  obtain ⟨hrecord, ⟨rfl, rfl, b', hread⟩ | ⟨hnew, rfl, hd⟩⟩ := persist_passes h
  · -- the record was there already, so its binding has the digest of this one
    obtain ⟨-, text, hkeeps, hdecodes⟩ := contents_eq_ok.1 hread
    have hdigest := (call_of_record hdecodes.receipt).2.symm.trans (call_of_record hrecord).2
    obtain rfl := canonicalMaterial_injective floats (hfree b' hread (Digest.sha256.inj hdigest))
    have hpolicy := policyDigest_of_fromCanonical host floats hdecodes.binding
    rw [repeats_of_keeps hrecord hkeeps]
    exact ⟨fun _ => ⟨.inl rfl, hpolicy⟩, fun _ => hdecodes⟩
  · rcases hd with rfl | rfl | ⟨items, hroot, hmaking⟩
    · rw [repeats_new hrecord hnew]
      exact ⟨fun hpolicy => ⟨.inl rfl, hpolicy⟩, fun h => h.2⟩
    · rw [repeats_of_keeps hrecord keeps_withRecord, decodes_self hrecord]
      exact ⟨fun hpolicy => ⟨.inr rfl, hpolicy⟩, fun h => h.2⟩
    · -- the directory is there without its receipt
      refine ⟨fun hrepeats => absurd hrepeats (not_repeats_making hrecord hroot hmaking), ?_⟩
      rintro ⟨rfl | rfl, -⟩
      · rw [hnew] at hroot
        cases hroot
      · have hat : (withRecord floats p s b r) r.recordIdentity =
            some (.folder p (published (b.canonicalMaterial floats) (r.material floats))) := Function.update_self _ _ _
        rw [hat] at hroot
        cases hroot
        cases hmaking

/-! ## Processes that run the same call -/

/-- The directory of a record, with its maker. -/
def view (identity : Digest) (root : Root π) : Option (Option π × List (String × Item)) :=
  match root identity with
  | none => none
  | some .link => some (none, [])
  | some (.folder maker items) => some (some maker, items)

/-- The receipt, which is published last, is not there yet. -/
def Making (items : List (String × Item)) : Prop := items.lookup receiptFile = none

inductive Request (r : SupervisorRuntimeBindingReceipt) where
  | persist
  | read (time : Int) (window : r.readyAt ≤ time ∧ time ≤ r.freshnessUntil)

variable (host floats source) in
/-- What a process runs: the call, or a reader of its receipt in the window. -/
def program (b : RuntimeBinding) (call : PersistCall) (p : π) : Request r → Work π (SupervisorRuntimeBindingReceipt ⊕ RuntimeBinding)
  | .persist => do
    let receipt ← persist host floats source p b call
    return .inl receipt
  | .read time _ => do
    let runtime ← read host floats source r time
    return .inr runtime

section Twins

open Exclusive

variable {final : List (String × Item)} {text receiptText : String} {identity : Digest}

theorem itemsOf_view {o : Option π} (h : view identity root = some (o, items)) :
    itemsOf root identity = items := by
  unfold view at h
  unfold itemsOf
  cases hentry : root identity with
  | none =>
    rw [hentry] at h
    cases h
  | some entry =>
    rw [hentry] at h
    cases entry with
    | link =>
      cases h
      rfl
    | folder maker items' =>
      cases h
      rfl

theorem own_iff : Own (view identity) p items root ↔ root identity = some (.folder p items) := by
  unfold Own view
  cases hentry : root identity with
  | none => simp
  | some entry =>
    cases entry with
    | link => simp
    | folder maker items' => simp

theorem view_update :
    Own (view identity) p items (Function.update root identity (some (.folder p items))) :=
  own_iff.2 (Function.update_self _ _ _)

theorem view_eq_none : view identity root = none ↔ root identity = none := by
  unfold view
  cases hentry : root identity with
  | none => simp
  | some entry =>
    cases entry with
    | link => simp
    | folder maker items' => simp

/-- What every process reads once the directory is complete. -/
structure Settled (floats : Floats F) (r : SupervisorRuntimeBindingReceipt) (π : Type) (final : List (String × Item))
    (text receiptText : String) : Prop where
  made : ¬ Making final
  listed : ∀ root : Root π, Done (view r.recordIdentity) final root → listing r.recordIdentity root = .ok ()
  runtime : ∀ root : Root π, Done (view r.recordIdentity) final root → fileText floats r.recordIdentity runtimeFile root = .ok text
  receipt : ∀ root : Root π, Done (view r.recordIdentity) final root →
    fileText floats r.recordIdentity receiptFile root = .ok receiptText

theorem settled_of_keeps {q : π} (h : Keeps floats root r text) (hroot : root r.recordIdentity = some (.folder q final)) :
    ∃ receiptText, Settled floats r π final text receiptText ∧
      SupervisorRuntimeBindingReceipt.fromCanonical floats receiptText = .ok r := by
  obtain ⟨receiptText, hreceipt, hstored⟩ := h.receipt
  have hitems : ∀ {root' : Root π}, Done (view r.recordIdentity) final root' →
      itemsOf root' r.recordIdentity = itemsOf root r.recordIdentity := by
    rintro root' ⟨o, ho⟩
    rw [itemsOf_view ho, itemsOf_eq hroot]
  have hmade : ¬ Making final := by
    intro hmaking
    have hlisted := h.listed
    rw [listing_making hroot hmaking] at hlisted
    cases hlisted
  refine ⟨receiptText, ⟨hmade, ?_, ?_, ?_⟩, hstored⟩
  · rintro root' ⟨o, ho⟩
    obtain ⟨q', hroot'⟩ : ∃ q', root' r.recordIdentity = some (.folder q' final) := by
      unfold view at ho
      split at ho
      · cases ho
      · cases ho
        exact absurd rfl hmade
      · cases ho
        exact ⟨_, by assumption⟩
    have hlisted := h.listed
    rw [listing, safePath_eq hroot, hroot] at hlisted
    rw [listing, safePath_eq hroot', hroot']
    exact hlisted
  · intro root' hdone
    rw [fileText, hitems hdone]
    exact h.runtime
  · intro root' hdone
    rw [fileText, hitems hdone]
    exact hreceipt

/-! ### Among others -/

/-- A directory of the process with such items. -/
def Holding (identity : Digest) (p : π) (I : List (String × Item) → Prop) (root : Root π) : Prop :=
  ∃ items, I items ∧ Own (view identity) p items root

/-- The directory is sound; where it is not there, it is complete with the items that the call publishes. -/
def Ready (identity : Digest) (final fresh : List (String × Item)) (root : Root π) : Prop :=
  Sound (view identity) Making final root ∧ (view identity root = none → final = fresh)

/-- The step of a process on the directory of a record. -/
abbrev Share (identity : Digest) (final : List (String × Item)) (p : π) : Root π → Root π → Prop :=
  Moves (view identity) Making final p

/-- The program does its share on the directory of a record. -/
abbrev WorksOn {α : Type} (identity : Digest) (final fresh : List (String × Item)) (p : π) (P : Root π → Prop)
    (x : Work π α) (A : α → Root π → Prop) : Prop :=
  Works (view identity) Making final (Ready identity final fresh) p P x A

variable {fresh : List (String × Item)} {P : Root π → Prop} {I J : List (String × Item) → Prop}

theorem ready_stable : Proc.Stable (Pool.Foreign (Share identity final) p) (Ready identity final fresh : Root π → Prop) := by
  rintro s t ⟨hsound, hfresh⟩ ⟨q, hq, hmove⟩
  refine ⟨hmove.sound hsound, fun hnone => hfresh ?_⟩
  by_contra hmade
  exact hmove.made hmade hnone

theorem holding_stable : Proc.Stable (Pool.Foreign (Share identity final) p) (Holding identity p I) := by
  rintro s t ⟨items, hitems, hown⟩ hmove
  exact ⟨items, hitems, own_stable s t hown hmove⟩

theorem works_look {α : Type} {step : FileStep} {f : Root π → Except String α} {A : α → Root π → Prop}
    (hP : Proc.Stable (Pool.Foreign (Share identity final) p) P)
    (hA : ∀ a, Proc.Stable (Pool.Foreign (Share identity final) p) (A a))
    (h : ∀ s a, Ready identity final fresh s → P s → f s = .ok a → A a s) : WorksOn identity final fresh p P (look step f) A :=
  Works.query ready_stable hP hA h

/-- A step in a directory of its own. -/
theorem works_edit {step : FileStep} {f : Nat → List (String × Item) → Except String (List (String × Item))}
    (h : ∀ items part items', I items → f part items = .ok items' →
      J items' ∧ (Making items' ∨ items' = final) ∧ (items = final → items' = final)) :
    WorksOn identity final fresh p (Holding identity p I) (edit step identity f) fun _ => Holding identity p J := by
  refine Script.Triple.commit (ready_stable.and holding_stable) (fun _ => ready_stable.and holding_stable)
    (ready_stable.and trivial_stable) ?_
  rintro s part hi ⟨items, hitems, hown⟩
  have hroot := own_iff.1 hown
  cases hf : f part items with
  | error e =>
    simp only [Tx.write, hroot, hf, Except.map]
    exact ⟨.refl rfl, hi, trivial⟩
  | ok items' =>
    obtain ⟨hJ, hmade, hdone⟩ := h items part items' hitems hf
    simp only [Tx.write, hroot, hf, Except.map]
    have hmove : Share identity final p s (Function.update s identity (some (.folder p items'))) :=
      .work hown view_update hmade hdone
    refine ⟨hmove, ⟨hmove.sound hi.1, fun hnone => ?_⟩, items', hJ, view_update⟩
    rw [view_update] at hnone
    cases hnone

/-- A file is published in a directory of its own that has items in the making. -/
theorem works_publish {name text' : String} (hmaking : Making items)
    (hpart : ∀ part, Making (put (temporary name) (.file part) items))
    (htemporary : items.lookup (temporary name) = none)
    (hdone : Making (put name (.file text') items) ∨ put name (.file text') items = final) (hmade : ¬ Making final) :
    WorksOn identity final fresh p (Holding identity p (· = items)) (publish identity name text')
      fun _ => Holding identity p (· = put name (.file text') items) := by
  have hnot : ∀ {items' : List (String × Item)}, Making items' → ∀ items'', items' = final → items'' = final :=
    fun hmaking _ heq => absurd (heq ▸ hmaking) hmade
  -- while it is written the temporary file has some part of the text
  have hwrite : ∀ (I : List (String × Item) → Prop),
    (∀ items', I items' → ∃ part, items' = put (temporary name) (.file part) items) →
      ∀ text : Nat → String, WorksOn identity final fresh p (Holding identity p I)
        (edit .write identity fun n items' => .ok (put (temporary name) (.file (text n)) items'))
        fun _ => Holding identity p fun items' => ∃ n, items' = put (temporary name) (.file (text n)) items := by
    intro I hI text
    refine works_edit fun items' n items'' hitems hf => ?_
    obtain ⟨part, rfl⟩ := hI items' hitems
    cases hf
    rw [put_put]
    exact ⟨⟨n, rfl⟩, .inl (hpart _), hnot (hpart part) _⟩
  refine Works.bind ready_stable (A := fun _ => Holding identity p (· = items))
    (works_look holding_stable (fun _ => holding_stable) fun _ _ _ hs _ => hs) fun _ => ?_
  refine Works.bind ready_stable (A := fun _ => Holding identity p (· = put (temporary name) (.file "") items))
    (works_edit ?_) fun _ => ?_
  · intro items' part items'' hitems hf
    subst hitems
    simp only [bind_eq_ok, exists_unit, pure_eq_ok] at hf
    obtain ⟨-, rfl⟩ := hf
    exact ⟨rfl, .inl (hpart _), hnot hmaking _⟩
  refine Works.bind ready_stable (hwrite _ (fun _ h => ⟨_, h⟩) _) fun _ => ?_
  refine Works.bind ready_stable (hwrite _ (by rintro _ ⟨n, h⟩; exact ⟨_, h⟩) fun _ => text') fun _ => ?_
  refine Works.bind ready_stable (A := fun _ => Holding identity p (· = put (temporary name) (.file text') items))
    (works_look holding_stable (fun _ => holding_stable) ?_) fun _ => works_edit ?_
  · rintro s _ - ⟨items', ⟨-, rfl⟩, hown⟩ -
    exact ⟨_, rfl, hown⟩
  · intro items' part items'' hitems hf
    subst hitems
    simp only [lookup_put_self, demand, ok_bind, drop_put, drop_of_lookup htemporary, pure_eq_ok] at hf
    subst hf
    exact ⟨rfl, hdone, hnot (hpart _) _⟩

/-- The directory is made by one process and found by the others. -/
theorem works_makeDirectory : WorksOn identity final fresh p (fun _ => True) (makeDirectory p identity)
    fun made root => made = true → Holding identity p (· = []) root ∧ final = fresh := by
  have hstable : ∀ made, Proc.Stable (Pool.Foreign (Share identity final) p)
      fun root : Root π => made = true → Holding identity p (· = []) root ∧ final = fresh :=
    fun made s t hs hmove hmade => ⟨holding_stable s t (hs hmade).1 hmove, (hs hmade).2⟩
  refine Script.Triple.commit (ready_stable.and trivial_stable) (fun made => ready_stable.and (hstable made))
    (ready_stable.and trivial_stable) ?_
  intro s _ hi _
  cases hentry : s identity with
  | some entry =>
    exact ⟨.refl rfl, hi, nofun⟩
  | none =>
    have hnone := view_eq_none.2 hentry
    have hmove : Share identity final p s (Function.update s identity (some (.folder p []))) := .make hnone view_update rfl
    refine ⟨hmove, ⟨hmove.sound hi.1, fun hnone' => ?_⟩, fun _ => ⟨⟨[], rfl, view_update⟩, hi.2 hnone⟩⟩
    rw [view_update] at hnone'
    cases hnone'

/-- A directory that a reader finds complete is settled. -/
theorem done_of_listing (hsound : Sound (view identity) Making final root) (h : listing identity root = .ok ()) :
    Done (view identity) final root := by
  simp only [listing, bind_eq_ok, exists_unit, refuse_eq_ok, Bool.not_eq_false] at h
  have hcomplete := h.2
  cases hentry : root identity with
  | none => simp [hentry, complete] at hcomplete
  | some entry =>
    rw [hentry] at hcomplete
    cases entry with
    | link => cases hcomplete
    | folder maker items =>
      refine hsound.done (own_iff.2 hentry) fun hmaking => ?_
      simp only [complete, Bool.and_eq_true] at hcomplete
      have hreceipt := hcomplete.2
      rw [hmaking] at hreceipt
      cases hreceipt

section

variable (hsettled : Settled floats r π final text receiptText)

include hsettled

/-- Among others a reader reads what the directory settles to. -/
theorem works_read {time : Int} (hbinding : ∀ b', RuntimeBinding.fromCanonical host floats text = .ok b' → b' = b) :
    WorksOn r.recordIdentity final fresh p (fun _ => True) (read host floats source r time) fun b' root => b' = b ∧
    Done (view r.recordIdentity) final root := by
  have hstable : ∀ q : Prop, Proc.Stable (Pool.Foreign (Share r.recordIdentity final) p)
      fun root : Root π => q ∧ Done (view r.recordIdentity) final root := fun _ => and_stable done_stable
  refine Works.check ready_stable fun _ _ => Works.bind ready_stable
    (A := fun _ root => True ∧ Done (view r.recordIdentity) final root)
      (works_look trivial_stable (fun _ => hstable True) fun s _ hi _ hlisted => ⟨trivial, done_of_listing hi.1 hlisted⟩) fun _ => ?_
  refine Works.bind ready_stable (A := fun t root => t = text ∧ Done (view r.recordIdentity) final root)
    (works_look (hstable True) (fun _ => hstable _) ?_) fun t => ?_
  · intro s t _ hs ht
    exact ⟨Except.ok.inj (ht.symm.trans (hsettled.runtime s hs.2)), hs.2⟩
  -- the text is that of the binding
  refine Works.check ready_stable fun b' hb' => Works.bind ready_stable
    (A := fun _ root => b' = b ∧ Done (view r.recordIdentity) final root)
      (works_look (hstable _) (fun _ => hstable _) ?_) fun rt => ?_
  · rintro s _ - ⟨rfl, hdone⟩ -
    exact ⟨hbinding b' hb', hdone⟩
  · refine Script.Triple.check (fun a _ => ready_stable.and (hstable _)) (ready_stable.and trivial_stable)
      (fun a ha s hs => ?_) fun _ _ => trivial
    simp only [decode, bind_eq_ok, exists_unit, pure_eq_ok] at ha
    obtain ⟨_, -, _, -, -, rfl⟩ := ha
    exact hs

/-- Among others the call returns its receipt, and where it returns the record is complete. -/
theorem works_persist (hrecord : record host floats source b call = .ok r)
    (hbinding : ∀ b', RuntimeBinding.fromCanonical host floats text = .ok b' → b' = b) :
    WorksOn r.recordIdentity final (published (b.canonicalMaterial floats) (r.material floats)) p (fun _ => True)
    (persist host floats source p b call) fun r' root => r' = r ∧ Done (view r.recordIdentity) final root := by
  have hstable : ∀ q : Prop, Proc.Stable (Pool.Foreign (Share r.recordIdentity final) p)
      fun root : Root π => q ∧ Done (view r.recordIdentity) final root := fun _ => and_stable done_stable
  refine Works.check ready_stable fun r' hr' => ?_
  obtain rfl : r' = r := Except.ok.inj (hr'.symm.trans (accept_eq_ok.2 hrecord))
  refine Works.bind ready_stable (A := fun _ _ => True)
    (works_look trivial_stable (fun _ => trivial_stable) fun _ _ _ _ _ => trivial) fun _ => ?_
  have hreturn : WorksOn r'.recordIdentity final (published (b.canonicalMaterial floats) (r'.material floats)) p
      (fun root => r' = r' ∧ Done (view r'.recordIdentity) final root) (pure r')
      fun r'' root => r'' = r' ∧ Done (view r'.recordIdentity) final root :=
    Works.pure ready_stable (A := fun r'' root => r'' = r' ∧ Done (view r'.recordIdentity) final root) (hstable _)
  refine Works.bind ready_stable works_makeDirectory fun made => ?_
  cases made with
  | false =>
    refine Works.bind ready_stable (A := fun _ root => True ∧ Done (view r'.recordIdentity) final root)
      ((works_read hsettled hbinding).weaken (fun _ _ => trivial) fun _ _ hs => ⟨trivial, hs.2⟩) fun b' =>
        Works.check ready_stable fun _ _ => ?_
    exact hreturn.weaken (fun _ hs => ⟨rfl, hs.2⟩) fun _ _ => id
  | true =>
    -- from here on the directory is this process's own
    by_cases hfresh : final = published (b.canonicalMaterial floats) (r'.material floats)
    · refine Works.weaken (P := Holding r'.recordIdentity p (· = [])) ?_ (fun _ hs => (hs rfl).1) fun _ _ => id
      refine Works.bind ready_stable (A := fun _ => Holding r'.recordIdentity p (· = []))
        (works_look holding_stable (fun _ => holding_stable) fun _ _ _ hs _ => hs) fun _ => ?_
      refine Works.bind ready_stable (works_publish rfl (fun _ => rfl) rfl (.inl rfl) hsettled.made) fun _ => ?_
      refine Works.bind ready_stable (works_publish rfl (fun _ => rfl) rfl (.inr hfresh.symm) hsettled.made) fun _ => ?_
      refine hreturn.weaken (fun s hs => ⟨rfl, ?_⟩) fun _ _ => id
      obtain ⟨items, rfl, hown⟩ := hs
      exact ⟨some p, hown.trans (by rw [hfresh]; rfl)⟩
    · refine Works.weaken (P := fun _ => False) ?_ (fun _ hs => hfresh (hs rfl).2) fun _ _ => id
      exact fun _ _ hs => hs.elim

/-! ### Once the record is complete -/

theorem answers_read {time : Int} (hdecodes : Decodes host floats source r text b)
    (hstored : SupervisorRuntimeBindingReceipt.fromCanonical floats receiptText = .ok r)
    (htime : r.readyAt ≤ time ∧ time ≤ r.freshnessUntil) : Answers (view r.recordIdentity) Making final p
    (read host floats source r time) b := by
  have hdecode : decode host floats source r b receiptText = .ok b := by
    rw [decode, hstored, ok_bind, hdecodes.receipt, ok_bind]
    simp [refuse, pure, Except.pure]
  refine (answers_check (inWindow_eq_ok.2 htime)).bind ?_
  refine (answers_query hsettled.listed).bind ?_
  refine (answers_query hsettled.runtime).bind ?_
  refine (answers_check hdecodes.binding).bind ?_
  exact (answers_query hsettled.receipt).bind (answers_check hdecode)

theorem answers_persist (hrecord : record host floats source b call = .ok r)
    (hdecodes : Decodes host floats source r text b)
    (hstored : SupervisorRuntimeBindingReceipt.fromCanonical floats receiptText = .ok r) :
    Answers (view r.recordIdentity) Making final p (persist host floats source p b call) r := by
  have hready : call.readyAt = r.readyAt := by
    rw [← (call_of_record hrecord).1]
    rfl
  refine (answers_check (accept_eq_ok.2 hrecord)).bind ((answers_query (a := ()) fun s hdone => ?_).bind ?_)
  · have hlisted := hsettled.listed s hdone
    simp only [listing, bind_eq_ok, exists_unit] at hlisted
    exact hlisted.1
  refine Answers.bind (a := false) (answers_commit fun s _ hdone => ?_) ?_
  · cases hentry : s r.recordIdentity with
    | none =>
      obtain ⟨o, ho⟩ := hdone
      rw [view_eq_none.2 hentry] at ho
      cases ho
    | some entry => exact ⟨s, rfl, rfl⟩
  · rw [hready]
    refine (answers_read hsettled hdecodes hstored ⟨le_refl _, r.window.2⟩).bind
      ((answers_check (a := ()) ?_).bind (answers_check rfl))
    simp [RuntimeBinding.same, refuse]

end

/-! ### Runs -/

variable [DecidableEq π]

/-- What is returned in a run: the receipt, or the binding, and then the record is complete. -/
def Sure (b : RuntimeBinding) (r : SupervisorRuntimeBindingReceipt) (final : List (String × Item))
    (result : Except String (SupervisorRuntimeBindingReceipt ⊕ RuntimeBinding)) (root : Root π) : Prop :=
  ∀ a, result = .ok a → (a = .inl r ∨ a = .inr b) ∧ Done (view r.recordIdentity) final root

omit [DecidableEq π] in
theorem safe_program (hrecord : record host floats source b call = .ok r) (hsettled : Settled floats r π final text receiptText)
    (hbinding : ∀ b', RuntimeBinding.fromCanonical host floats text = .ok b' → b' = b) (request : Request r) {s : Root π}
    (hready : Ready r.recordIdentity final (published (b.canonicalMaterial floats) (r.material floats)) s) :
    Proc.Safe (Pool.Foreign (Share r.recordIdentity final) p) (Share r.recordIdentity final p) (Sure b r final)
      (program host floats source b call p request) s := by
  have hreturn : ∀ {q : Prop} (a : SupervisorRuntimeBindingReceipt ⊕ RuntimeBinding), (q → a = .inl r ∨ a = .inr b) →
      WorksOn r.recordIdentity final (published (b.canonicalMaterial floats) (r.material floats)) p
        (fun root => q ∧ Done (view r.recordIdentity) final root) (pure a)
        fun a' root => (a' = .inl r ∨ a' = .inr b) ∧ Done (view r.recordIdentity) final root := by
    intro q a hq
    refine Works.weaken (Works.pure ready_stable (A := fun a' root => (a' = .inl r ∨ a' = .inr b) ∧ Done (view r.recordIdentity) final root) ?_)
      (fun _ hs => ⟨hq hs.1, hs.2⟩) fun _ _ => id
    exact and_stable done_stable
  have hworks : WorksOn r.recordIdentity final (published (b.canonicalMaterial floats) (r.material floats)) p (fun _ => True)
      (program host floats source b call p request)
      fun a root => (a = .inl r ∨ a = .inr b) ∧ Done (view r.recordIdentity) final root := by
    cases request with
    | persist => exact Works.bind ready_stable (works_persist hsettled hrecord hbinding) fun r' => hreturn (.inl r') fun h => .inl (h ▸ rfl)
    | read time window => exact Works.bind ready_stable (works_read hsettled hbinding) fun b' => hreturn (.inr b') fun h => .inr (h ▸ rfl)
  refine (hworks s hready trivial).mono fun result t ht a ha => ?_
  subst ha
  exact ht.2

omit [DecidableEq π] in
theorem answering_program (hrecord : record host floats source b call = .ok r)
    (hsettled : Settled floats r π final text receiptText) (hdecodes : Decodes host floats source r text b)
    (hstored : SupervisorRuntimeBindingReceipt.fromCanonical floats receiptText = .ok r) (request : Request r)
    {s : Root π} (hdone : Done (view r.recordIdentity) final s) :
    Proc.Safe (Pool.Foreign (Share r.recordIdentity final) p) (Share r.recordIdentity final p)
      (fun result _ => result = .ok (.inl r) ∨ result = .ok (.inr b)) (program host floats source b call p request) s := by
  have hanswers : ∃ a, (a = .inl r ∨ a = .inr b) ∧ Answers (view r.recordIdentity) Making final p
    (program host floats source b call p request) a := by
    cases request with
    | persist => exact ⟨_, .inl rfl, (answers_persist hsettled hrecord hdecodes hstored).bind (answers_check rfl)⟩
    | read time window => exact ⟨_, .inr rfl, (answers_read hsettled hdecodes hstored window).bind (answers_check rfl)⟩
  obtain ⟨a, ha, hanswers⟩ := hanswers
  refine (hanswers s hdone trivial).mono fun result t ht => ?_
  cases result with
  | error e => exact ht.2.elim
  | ok a' =>
    obtain ⟨-, rfl⟩ := ht
    exact ha.imp (congrArg _) (congrArg _)

omit [DecidableEq π] in
/-- What a root settles to from which the call would return. -/
theorem settles {s d t : Root π} (h : Script.Passes (fun _ => True) (persist host floats source p b call) s d (.ok r) t)
    (hfree : ∀ b', contents host floats source r r.readyAt s = .ok b' →
      host.hexdigest (b'.canonicalMaterial floats) = host.hexdigest (b.canonicalMaterial floats) →
      b'.canonicalMaterial floats = b.canonicalMaterial floats) :
    ∃ final text receiptText, Settled floats r π final text receiptText ∧
      SupervisorRuntimeBindingReceipt.fromCanonical floats receiptText = .ok r ∧
      (∀ b', RuntimeBinding.fromCanonical host floats text = .ok b' → b' = b) ∧
      (b.reviewPolicyDigest = b.policyDigest host → Decodes host floats source r text b) ∧
      Ready r.recordIdentity final (published (b.canonicalMaterial floats) (r.material floats)) s := by
  obtain ⟨hrecord, ⟨-, -, b', hread⟩ | ⟨hnew, -, -⟩⟩ := persist_passes h
  · obtain ⟨-, text, hkeeps, hdecodes⟩ := contents_eq_ok.1 hread
    have hdigest := (call_of_record hdecodes.receipt).2.symm.trans (call_of_record hrecord).2
    obtain rfl := canonicalMaterial_injective floats (hfree b' hread (Digest.sha256.inj hdigest))
    obtain ⟨q, items, hroot⟩ : ∃ q items, s r.recordIdentity = some (.folder q items) := by
      have hlisted := hkeeps.listed
      obtain ⟨entry, hentry⟩ := exists_of_keeps hkeeps
      cases entry with
      | folder q items => exact ⟨q, items, hentry⟩
      | link =>
        rw [listing, safePath, hentry] at hlisted
        cases hlisted
    obtain ⟨receiptText, hsettled, hstored⟩ := settled_of_keeps hkeeps hroot
    refine ⟨items, text, receiptText, hsettled, hstored, fun b'' hb'' => Except.ok.inj
      (hb''.symm.trans hdecodes.binding), fun _ => hdecodes, fun o c hc => .inr ?_, fun hnone => ?_⟩
    · rw [own_iff.2 hroot] at hc
      exact (Prod.mk.inj (Option.some.inj hc)).2.symm
    · rw [own_iff.2 hroot] at hnone
      cases hnone
  · have hroot : (withRecord floats p s b r) r.recordIdentity =
        some (.folder p (published (b.canonicalMaterial floats) (r.material floats))) := Function.update_self _ _ _
    obtain ⟨receiptText, hsettled, hstored⟩ := settled_of_keeps keeps_withRecord hroot
    refine ⟨_, _, receiptText, hsettled, hstored, fun b'' hb'' =>
      ((fromCanonical_canonicalMaterial host floats b b'').1 hb'').1, (decodes_self hrecord).2, fun o c hc => ?_, fun _ => rfl⟩
    rw [view_eq_none.2 hnew] at hc
    cases hc

/-- Processes that run the call and readers of its receipt, from a root from which the call would return: nobody gets
anything but the receipt and the binding. Where the policy digest is right, every call that starts after one has
returned gets them. -/
theorem twins_run {s d t : Root π}
    (h : Script.Passes (fun _ => True) (persist host floats source p b call) s d (.ok r) t)
    (hfree : ∀ b', contents host floats source r r.readyAt s = .ok b' →
      host.hexdigest (b'.canonicalMaterial floats) = host.hexdigest (b.canonicalMaterial floats) →
      b'.canonicalMaterial floats = b.canonicalMaterial floats)
    {mid later : Pool π FileStep Nat (Root π) (Except String (SupervisorRuntimeBindingReceipt ⊕ RuntimeBinding))}
    (hmid : Relation.ReflTransGen (Pool.Turn (κ := Request r) (program host floats source b call))
    ⟨s, fun _ => none, []⟩ mid) (hlater : Relation.ReflTransGen
    (Pool.Turn (κ := Request r) (program host floats source b call)) mid later) :
    (∀ q a, (q, .ok a) ∈ mid.returned → a = .inl r ∨ a = .inr b) ∧
    (b.reviewPolicyDigest = b.policyDigest host → ∀ q a q', (q, .ok a) ∈ mid.returned → mid.running q' = none →
      ∃ new, later.returned = mid.returned ++ new ∧
        ∀ result, (q', result) ∈ new → result = .ok (.inl r) ∨ result = .ok (.inr b)) := by
  have hrecord := (persist_passes h).1
  obtain ⟨final, text, receiptText, hsettled, hstored, hbinding, hdecodes, hready⟩ := settles h hfree
  have hprogram : ∀ q request root, Ready r.recordIdentity final (published (b.canonicalMaterial floats) (r.material floats)) root →
      Proc.Safe (Pool.Foreign (Share r.recordIdentity final) q) (Share r.recordIdentity final q) (Sure b r final)
        (program host floats source b call q request) root :=
    fun q request root hready => safe_program hrecord hsettled hbinding request hready
  have hinv : ∀ (q : π) root root', Ready r.recordIdentity final (published (b.canonicalMaterial floats) (r.material floats)) root →
      Share r.recordIdentity final q root root' →
      Ready r.recordIdentity final (published (b.canonicalMaterial floats) (r.material floats)) root' := by
    intro q root root' hroot hmove
    refine ⟨hmove.sound hroot.1, fun hnone => hroot.2 ?_⟩
    by_contra hmade
    exact hmove.made hmade hnone
  have hidle : Pool.AllSafe (Share r.recordIdentity final) (Sure b r final)
      (⟨s, fun _ => none, []⟩ : Pool π FileStep Nat (Root π) (Except String (SupervisorRuntimeBindingReceipt ⊕ RuntimeBinding))) :=
    fun _ _ hrunning => nomatch hrunning
  have hreturned := Pool.returned_run (K := Sure b r final) hprogram hinv (fun _ _ => id)
    (fun q result root root' hsure hmove a ha => ⟨(hsure a ha).1, hmove.done (hsure a ha).2⟩) hmid hready hidle nofun
  refine ⟨fun q a ha => (hreturned _ ha a rfl).1, fun hpolicy q a q' ha hq' => ?_⟩
  obtain ⟨hroot, hsafe⟩ := Pool.allSafe_run hprogram hinv hmid hready hidle
  exact Pool.answered_run hprogram hinv (fun _ _ _ hdone hmove => hmove.done hdone)
    (fun request root hdone => answering_program hrecord hsettled (hdecodes hpolicy) hstored request hdone) hlater hroot hsafe hq'
    (hreturned _ ha a rfl).2

end Twins

end Roundwright.State.FileStore
