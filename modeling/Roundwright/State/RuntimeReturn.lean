/-
What the stores of runtime bindings accept they can return exactly when the policy digest of the binding is that of its
policy. Both stores are instances of one kind of store, with laws for what they keep; the result is proved once, from
the laws.
-/
import Roundwright.Lib.Walk
import Roundwright.State.RuntimeStore

namespace Roundwright.State

open Lib Lib.JsonText

variable {F : Type} {host : Host} {floats : Floats F} {source : Digest}

/-! ## Stores -/

/-- A text that is kept for a receipt decodes to a binding, and the receipt is the one of that binding. -/
structure Decodes (host : Host) (floats : Floats F) (source : Digest) (r : SupervisorRuntimeBindingReceipt)
    (text : String) (b : RuntimeBinding) : Prop where
  binding : RuntimeBinding.fromCanonical host floats text = .ok b
  receipt : record host floats source b r.call = .ok r

/-- A store of runtime bindings, on an outside world `ω` that differs from call to call. -/
structure RuntimeStore (host : Host) (floats : Floats F) (source : Digest) (σ ω : Type) where
  persist : ω → RuntimeBinding → PersistCall → σ → Except String SupervisorRuntimeBindingReceipt × σ
  read : ω → SupervisorRuntimeBindingReceipt → Int → σ → Except String RuntimeBinding
  Keeps : σ → SupervisorRuntimeBindingReceipt → String → Prop
  /-- What is accepted is kept, or something can be read in its place. -/
  persist_ok : ∀ {w b call s r s'}, persist w b call s = (.ok r, s') →
    record host floats source b call = .ok r ∧
      (Keeps s' r (b.canonicalMaterial floats) ∨ s' = s ∧ ∃ b', read w r r.readyAt s = .ok b')
  /-- A binding is persisted again where it is read. -/
  persist_again : ∀ {w b call s r text}, Keeps s r text → record host floats source b call = .ok r →
    read w r r.readyAt s = .ok b → (persist w b call s).1 = .ok r
  persist_keeps : ∀ {w b call s r text}, Keeps s r text → Keeps (persist w b call s).2 r text
  read_iff : ∀ {w r time s text b}, Keeps s r text →
    (read w r time s = .ok b ↔ (r.readyAt ≤ time ∧ time ≤ r.freshnessUntil) ∧ Decodes host floats source r text b)
  keeps_of_read : ∀ {w r time s b}, read w r time s = .ok b → ∃ text, Keeps s r text

variable {text : String}

namespace RuntimeStore

variable {σ ω : Type} (store : RuntimeStore host floats source σ ω)

/-- The state after some calls of `persist`, whether they return or raise. -/
def after (calls : List (ω × RuntimeBinding × PersistCall)) (s : σ) : σ :=
  calls.foldl (fun s c => (store.persist c.1 c.2.1 c.2.2 s).2) s

/-- Whatever is persisted from this state on: in its window the receipt is read as the binding, and persisting the
binding again returns the receipt. -/
def Returns (b : RuntimeBinding) (call : PersistCall) (r : SupervisorRuntimeBindingReceipt) (s : σ) : Prop :=
  ∀ calls w, (∀ time, r.readyAt ≤ time → time ≤ r.freshnessUntil → store.read w r time (store.after calls s) = .ok b) ∧
    (store.persist w b call (store.after calls s)).1 = .ok r

/-- The digest of the binding is not that of another binding which is read under its record. -/
def NoCollision (b : RuntimeBinding) (r : SupervisorRuntimeBindingReceipt) (s : σ) : Prop :=
  ∀ w, ∀ b', store.read w r r.readyAt s = .ok b' →
    host.hexdigest (b'.canonicalMaterial floats) = host.hexdigest (b.canonicalMaterial floats) →
    b'.canonicalMaterial floats = b.canonicalMaterial floats

variable {r : SupervisorRuntimeBindingReceipt}

theorem after_keeps {s : σ} (h : store.Keeps s r text) (calls : List (ω × RuntimeBinding × PersistCall)) :
    store.Keeps (store.after calls s) r text := by
  induction calls generalizing s with
  | nil => exact h
  | cons c calls ih => exact ih (store.persist_keeps h)

/-- What is kept and decodes to the binding is returned from then on. -/
theorem returns_of_keeps {b : RuntimeBinding} {call : PersistCall} {s : σ}
    (hkeeps : store.Keeps s r text) (hdecodes : Decodes host floats source r text b)
    (hrecord : record host floats source b call = .ok r) :
    store.Returns b call r s := by
  intro calls w
  have hlater := store.after_keeps hkeeps calls
  have hread : ∀ time, r.readyAt ≤ time → time ≤ r.freshnessUntil → store.read w r time (store.after calls s) = .ok b :=
    fun time hready hfresh => (store.read_iff hlater).2 ⟨⟨hready, hfresh⟩, hdecodes⟩
  exact ⟨hread, store.persist_again hlater hrecord (hread _ (le_refl _) r.window.2)⟩

/-- What a store of this kind accepts it returns exactly when the policy digest of the binding is that of its policy. -/
theorem returns_iff {b : RuntimeBinding} {call : PersistCall} {w : ω} {s s' : σ}
    (h : store.persist w b call s = (.ok r, s')) (hfree : store.NoCollision b r s) :
    store.Returns b call r s' ↔ b.reviewPolicyDigest = b.policyDigest host := by
  obtain ⟨hrecord, hkept⟩ := store.persist_ok h
  constructor
  · intro hreturns
    have hread := (hreturns [] w).1 r.readyAt (le_refl _) r.window.2
    obtain ⟨text, hkeeps⟩ := store.keeps_of_read hread
    exact policyDigest_of_fromCanonical host floats ((store.read_iff hkeeps).1 hread).2.binding
  · intro hpolicy
    rcases hkept with hkeeps | ⟨rfl, b', hread⟩
    · refine store.returns_of_keeps hkeeps ⟨(fromCanonical_canonicalMaterial host floats b b).2 ⟨rfl, hpolicy⟩, ?_⟩ hrecord
      rw [(call_of_record hrecord).1]
      exact hrecord
    · -- the record was there already, so its binding has the digest of this one
      obtain ⟨text, hkeeps⟩ := store.keeps_of_read hread
      have hdecodes := ((store.read_iff hkeeps).1 hread).2
      have hdigest := (call_of_record hdecodes.receipt).2.symm.trans (call_of_record hrecord).2
      have hmaterial := hfree w b' hread (Digest.sha256.inj hdigest)
      obtain rfl := canonicalMaterial_injective floats hmaterial
      exact store.returns_of_keeps hkeeps hdecodes hrecord

end RuntimeStore

/-! ## In memory -/

namespace Memory

variable {b : RuntimeBinding} {records : Memory} {r : SupervisorRuntimeBindingReceipt}

theorem read_eq_ok {time : Int} :
    read host floats source r time records = .ok b ↔
      (r.readyAt ≤ time ∧ time ≤ r.freshnessUntil) ∧ ∃ text, records r.recordIdentity = some text ∧
        Decodes host floats source r text b := by
  simp only [read, bind_eq_ok, exists_unit, inWindow_eq_ok, demand_eq_ok, refuse_eq_ok, pure_eq_ok, not_not]
  constructor
  · rintro ⟨hwindow, text, htext, b', hbinding, r', hrecord, rfl, rfl⟩
    exact ⟨hwindow, text, htext, hbinding, hrecord⟩
  · rintro ⟨hwindow, text, htext, hdecodes⟩
    exact ⟨hwindow, text, htext, b, hdecodes.binding, r, hdecodes.receipt, rfl, rfl⟩

/-- A call that finds the record changes nothing, and returns where the binding is read. -/
theorem persist_found {call : PersistCall} (hrecord : record host floats source b call = .ok r)
    (htext : records r.recordIdentity = some text) :
    (persist host floats source b call records).2 = records ∧ ((persist host floats source b call records).1 = .ok r ↔
      ∃ b', read host floats source r r.readyAt records = .ok b' ∧ b'.same b = true) := by
  have hready : call.readyAt = r.readyAt := by
    rw [← (call_of_record hrecord).1]
    rfl
  rw [persist, Tx.run_check_bind, accept_eq_ok.2 hrecord, hready]
  simp only [Tx.run_query_bind, htext]
  cases hread : read host floats source r r.readyAt records with
  | error e => simp
  | ok b' =>
    simp only [Tx.run_check_bind]
    cases hsame : b'.same b with
    | false => simp [refuse, hsame]
    | true => exact ⟨rfl, fun _ => ⟨b', rfl, hsame⟩, fun _ => rfl⟩

theorem persist_new {call : PersistCall} (hrecord : record host floats source b call = .ok r)
    (hnew : records r.recordIdentity = none) :
    persist host floats source b call records =
    (.ok r, Function.update records r.recordIdentity (some (b.canonicalMaterial floats))) := by
  rw [persist, Tx.run_check_bind, accept_eq_ok.2 hrecord]
  simp only [Tx.run_query_bind, hnew, Tx.run_write_bind]
  rfl

theorem persist_refused {call : PersistCall} {e : String} (h : accept host floats source b call = .error e) :
    persist host floats source b call records = (.error e, records) := by
  rw [persist, Tx.run_check_bind, h]

/-- A record that is there stays. -/
theorem persist_keeps {call : PersistCall} {identity : Digest} (h : records identity = some text) :
    (persist host floats source b call records).2 identity = some text := by
  cases haccept : accept host floats source b call with
  | error e =>
    rw [persist_refused haccept]
    exact h
  | ok r =>
    have hrecord := accept_eq_ok.1 haccept
    cases hkept : records r.recordIdentity with
    | some text' =>
      rw [(persist_found hrecord hkept).1]
      exact h
    | none =>
      rw [persist_new hrecord hkept]
      have hother : identity ≠ r.recordIdentity := by
        rintro rfl
        rw [h] at hkept
        cases hkept
      exact (Function.update_of_ne hother _ _).trans h

/-- What is returned is the receipt of the arguments. -/
theorem record_of_persist {call : PersistCall} {records records' : Memory}
    (h : persist host floats source b call records = (.ok r, records')) : record host floats source b call = .ok r := by
  rw [persist, Tx.check_bind] at h
  obtain ⟨r', haccept, h⟩ := h
  simp only [Tx.query_bind, Except.ok.injEq, exists_eq_left'] at h
  have hsame : r' = r := by
    cases hkept : records r'.recordIdentity with
    | none =>
      simp only [hkept, Tx.write_bind, Except.ok.injEq, exists_eq_left', Tx.pure_ok] at h
      exact h.1
    | some text =>
      simp only [hkept, Tx.query_bind, Tx.check_bind, exists_unit, Tx.pure_ok] at h
      obtain ⟨_, -, -, h⟩ := h
      exact h.1
  exact hsame ▸ accept_eq_ok.1 haccept

/-- The store in memory is a store of runtime bindings. -/
def store (host : Host) (floats : Floats F) (source : Digest) : RuntimeStore host floats source Memory Unit where
  persist _ := persist host floats source
  read _ := read host floats source
  Keeps records r text := records r.recordIdentity = some text
  persist_ok := by
    intro _ b call records r records' h
    have hrecord := record_of_persist h
    refine ⟨hrecord, ?_⟩
    cases hkept : records r.recordIdentity with
    | none =>
      rw [persist_new hrecord hkept] at h
      cases h
      exact .inl (Function.update_self _ _ _)
    | some text =>
      obtain ⟨hstate, hresult⟩ := persist_found hrecord hkept
      rw [h] at hstate hresult
      obtain ⟨b', hread, -⟩ := hresult.1 rfl
      exact .inr ⟨hstate, b', hread⟩
  persist_again := by
    intro _ b call records r text hkeeps hrecord hread
    exact (persist_found hrecord hkeeps).2.2 ⟨b, hread, by simp [RuntimeBinding.same]⟩
  persist_keeps := persist_keeps
  read_iff := by
    intro _ r time records text b hkeeps
    rw [read_eq_ok]
    constructor
    · rintro ⟨hwindow, text', htext, hdecodes⟩
      obtain rfl : text' = text := Option.some.inj (htext.symm.trans hkeeps)
      exact ⟨hwindow, hdecodes⟩
    · rintro ⟨hwindow, hdecodes⟩
      exact ⟨hwindow, text, hkeeps, hdecodes⟩
  keeps_of_read := by
    intro _ r time records b h
    obtain ⟨-, text, htext, -⟩ := read_eq_ok.1 h
    exact ⟨text, htext⟩

end Memory

/-! ## On disk -/

/-! ### Items of a directory -/

theorem drop_of_lookup {name : String} {items : List (String × Item)} (h : items.lookup name = none) : drop name items = items := by
  refine List.filter_eq_self.2 fun i hi => decide_eq_true ?_
  have hne := List.lookup_eq_none_iff.1 h i hi
  rintro rfl
  simp at hne

@[simp] theorem drop_put (name : String) (item : Item) (items : List (String × Item)) :
    drop name (put name item items) = drop name items := by
  simp [drop, put]

@[simp] theorem put_put (name : String) (item item' : Item) (items : List (String × Item)) :
    put name item (put name item' items) = put name item items := by
  show (name, item) :: drop name (put name item' items) = _
  rw [drop_put, put]

@[simp] theorem lookup_put_self (name : String) (item : Item) (items : List (String × Item)) :
    (put name item items).lookup name = some item := by
  simp [put]

theorem lookup_put_of_ne {name name' : String} (h : name' ≠ name) (item : Item) (items : List (String × Item)) :
    (put name item items).lookup name' = items.lookup name' := by
  have hdrop : (drop name items).lookup name' = items.lookup name' := by
    induction items with
    | nil => rfl
    | cons i items ih =>
      obtain ⟨n, x⟩ := i
      by_cases hn : n = name
      · subst hn
        have hne : (name' == n) = false := by simpa using h
        rw [List.lookup_cons, hne, ← ih]
        simp [drop]
      · have hkeep : drop name ((n, x) :: items) = (n, x) :: drop name items := by simp [drop, hn]
        rw [hkeep, List.lookup_cons, List.lookup_cons, ih]
  have hne : (name' == name) = false := by simpa using h
  rw [put, List.lookup_cons, hne]
  exact hdrop

/-- The items of a record that is published. -/
def published (runtimeText receiptText : String) : List (String × Item) :=
  put receiptFile (.file receiptText) (put runtimeFile (.file runtimeText) [])

variable {f : Nat → List (String × Item) → Except String (List (String × Item))}

namespace FileStore

variable {π τ : Type} {root : Root π} {identity : Digest} {p : π} {items : List (String × Item)} {D : Root π → Prop}

/-! ### One step alone -/

theorem itemsOf_eq (h : root identity = some (.folder p items)) : itemsOf root identity = items := by
  rw [itemsOf, h]

theorem safePath_eq (h : root identity = some (.folder p items)) : safePath root identity = .ok () := by
  rw [safePath, h]

/-- A step that finds what it asks for. -/
theorem walks_look {α β : Type} {step : FileStep} {f : Root π → Except String α} {a : α} {g : α → Work π β}
    {R : Except String β → Root π → Prop} (hs : D root) (hf : f root = .ok a) (h : Script.Walks D R (g a) root) :
    Script.Walks D R (look step f >>= g) root :=
  Script.Walks.commit_ok hs fun _ => ⟨a, root, by rw [Tx.query, hf], hs, h⟩

/-- A step that leaves the directory with other items. -/
theorem walks_edit {step : FileStep}
    {Q : Except String Unit → Root π → Prop} (h : root identity = some (.folder p items)) (hs : D root)
    (hf : ∀ part, ∃ items', f part items = .ok items' ∧ D (Function.update root identity (some (.folder p items'))) ∧
      Q (.ok ()) (Function.update root identity (some (.folder p items')))) :
    Script.Walks D Q (edit step identity f) root := by
  refine Script.Walks.commit hs fun part => ?_
  obtain ⟨items', hitems, hD, hQ⟩ := hf part
  simp only [Tx.write, h, hitems, Except.map]
  exact ⟨hD, hQ⟩

theorem walks_edit_bind {β : Type} {step : FileStep}
    {g : Unit → Work π β} {R : Except String β → Root π → Prop} (h : root identity = some (.folder p items))
    (hs : D root) (hf : ∀ part, ∃ items', f part items = .ok items' ∧ D (Function.update root identity (some (.folder p items'))) ∧
      Script.Walks D R (g ()) (Function.update root identity (some (.folder p items')))) :
    Script.Walks D R (edit step identity f >>= g) root :=
  Script.Walks.bind (walks_edit h hs hf)

/-! ### Publishing alone -/

theorem temporary_ne (name : String) : name ≠ temporary name := by
  intro hname
  have hlength := congrArg String.length hname
  simp [temporary] at hlength

/-- In a directory without the names, the file is published. On the way there is the temporary file besides the
items. -/
theorem walks_publish {name text : String} (h : root identity = some (.folder p items))
    (hname : items.lookup name = none) (htemporary : items.lookup (temporary name) = none) (hs : D root)
    (hpart : ∀ text', D (Function.update root identity (some (.folder p (put (temporary name) (.file text') items)))))
    (hdone : D (Function.update root identity (some (.folder p (put name (.file text) items))))) :
    Script.Walks D (fun r t => r = .ok () ∧ t = Function.update root identity (some (.folder p (put name (.file text) items))))
      (publish identity name text) root := by
  have hfree : noCollision identity name root = .ok () := by
    rw [noCollision, safePath_eq h, itemsOf_eq h, hname, htemporary]
    rfl
  refine walks_look hs hfree (walks_edit_bind h hs fun _ => ⟨_, ?_, hpart "", ?_⟩)
  · rw [htemporary]
    rfl
  -- from here on the directory has the temporary file, with some part of the text
  have hat : ∀ text' : String, (Function.update root identity
      (some (.folder p (put (temporary name) (.file text') items)))) identity =
        some (Entry.folder p (put (temporary name) (.file text') items)) := fun _ => Function.update_self _ _ _
  refine walks_edit_bind (hat _) (hpart _) fun part => ⟨_, rfl, ?_, ?_⟩
  · rw [Function.update_idem, put_put]
    exact hpart _
  rw [Function.update_idem, put_put]
  refine walks_edit_bind (hat _) (hpart _) fun _ => ⟨_, rfl, ?_, ?_⟩
  · rw [Function.update_idem, put_put]
    exact hpart _
  rw [Function.update_idem, put_put]
  refine walks_look (a := ()) (hpart _) ?_ (walks_edit (hat _) (hpart _) fun _ => ⟨put name (.file text) items, ?_, ?_, rfl, ?_⟩)
  · rw [itemsOf_eq (hat _), lookup_put_of_ne (temporary_ne name), hname]
    rfl
  · rw [lookup_put_self, drop_put, drop_of_lookup htemporary]
    rfl
  · rw [Function.update_idem]
    exact hdone
  · rw [Function.update_idem]

/-! ### Reading and persisting alone -/

section Store

variable [DecidableEq F] {b : RuntimeBinding} {call : PersistCall} {r : SupervisorRuntimeBindingReceipt}

/-- What `read` returns in a root that does not change. -/
def contents (host : Host) (floats : Floats F) (source : Digest) (r : SupervisorRuntimeBindingReceipt) (time : Int) (root : Root π) :
    Except String RuntimeBinding := do
  inWindow r time
  listing r.recordIdentity root
  let runtimeText ← fileText floats r.recordIdentity runtimeFile root
  let runtime ← RuntimeBinding.fromCanonical host floats runtimeText
  let receiptText ← fileText floats r.recordIdentity receiptFile root
  decode host floats source r runtime receiptText

theorem reads_read (r : SupervisorRuntimeBindingReceipt) (time : Int) :
    Script.Reads (read host floats source r time : Work π RuntimeBinding) (contents host floats source r time) := by
  refine (Script.reads_check _).bind fun _ => (Script.reads_query _ _).bind fun _ => (Script.reads_query _ _).bind fun _ => ?_
  exact (Script.reads_check _).bind fun _ => (Script.reads_query _ _).bind fun _ => Script.reads_check _

/-- What a directory keeps for a receipt. -/
structure Keeps (floats : Floats F) (root : Root π) (r : SupervisorRuntimeBindingReceipt) (text : String) : Prop where
  listed : listing r.recordIdentity root = .ok ()
  runtime : fileText floats r.recordIdentity runtimeFile root = .ok text
  receipt : ∃ receiptText, fileText floats r.recordIdentity receiptFile root = .ok receiptText ∧
    SupervisorRuntimeBindingReceipt.fromCanonical floats receiptText = .ok r

theorem contents_eq_ok {time : Int} :
    contents host floats source r time root = .ok b ↔
      (r.readyAt ≤ time ∧ time ≤ r.freshnessUntil) ∧ ∃ text, Keeps floats root r text ∧ Decodes host floats source r text b := by
  simp only [contents, decode, bind_eq_ok, exists_unit, inWindow_eq_ok, refuse_eq_ok, pure_eq_ok, not_or, not_not]
  constructor
  · rintro ⟨hwindow, hlisted, text, hruntime, b', hbinding, receiptText, hreceipt, stored, hstored, r', hrecord, ⟨rfl, rfl⟩, rfl⟩
    exact ⟨hwindow, text, ⟨hlisted, hruntime, receiptText, hreceipt, hstored⟩, hbinding, hrecord⟩
  · rintro ⟨hwindow, text, ⟨hlisted, hruntime, receiptText, hreceipt, hstored⟩, hbinding, hrecord⟩
    exact ⟨hwindow, hlisted, text, hruntime, b, hbinding, receiptText, hreceipt, r, hstored, r, hrecord, ⟨rfl, rfl⟩, rfl⟩

/-- What is read under a receipt depends on the text that is kept for it. -/
theorem contents_of_keeps {time : Int} (h : Keeps floats root r text) :
    contents host floats source r time root = .ok b ↔
      (r.readyAt ≤ time ∧ time ≤ r.freshnessUntil) ∧ Decodes host floats source r text b := by
  rw [contents_eq_ok]
  constructor
  · rintro ⟨hwindow, text', hkept, hdecodes⟩
    obtain rfl : text' = text := Except.ok.inj (hkept.runtime.symm.trans h.runtime)
    exact ⟨hwindow, hdecodes⟩
  · rintro ⟨hwindow, hdecodes⟩
    exact ⟨hwindow, text, h, hdecodes⟩

/-- `persist` where the record is there already. -/
theorem walks_found (hrecord : record host floats source b call = .ok r) {entry : Entry π}
    (hentry : root r.recordIdentity = some entry) {Q : Except String SupervisorRuntimeBindingReceipt → Root π → Prop}
    (hs : D root) (hQ : Q (do
      safePath root r.recordIdentity
      let stored ← contents host floats source r r.readyAt root
      refuse (stored.same b = false) "supervisor runtime record has drifted"
      return r) root) :
    Script.Walks D Q (persist host floats source p b call) root := by
  have hready : call.readyAt = r.readyAt := by
    rw [← (call_of_record hrecord).1]
    rfl
  refine Script.Walks.check_ok (accept_eq_ok.2 hrecord) ?_
  rw [hready]
  cases hpath : safePath root r.recordIdentity with
  | error e =>
    rw [hpath] at hQ
    exact Script.Walks.commit_error hs fun _ => ⟨e, root, by rw [Tx.query, hpath], hs, hQ⟩
  | ok u =>
    rw [hpath] at hQ
    refine walks_look hs hpath (Script.Walks.commit_ok hs fun _ => ⟨false, root, by rw [hentry], hs, ?_⟩)
    exact ((reads_read r r.readyAt).bind fun _ => (Script.reads_check _).bind fun _ => Script.reads_check (.ok r)) D Q root hs hQ

/-- The root with the published record. -/
def withRecord (floats : Floats F) (p : π) (root : Root π) (b : RuntimeBinding) (r : SupervisorRuntimeBindingReceipt) : Root π :=
  Function.update root r.recordIdentity (some (.folder p (published (b.canonicalMaterial floats) (r.material floats))))

/-- `persist` where there is no record. -/
theorem walks_new (hrecord : record host floats source b call = .ok r) (hnew : root r.recordIdentity = none)
    (hs : D root) (hpart : ∀ items, items.lookup receiptFile = none →
    D (Function.update root r.recordIdentity (some (.folder p items)))) (hdone : D (withRecord floats p root b r)) :
    Script.Walks D (fun result t => result = .ok r ∧ t = withRecord floats p root b r)
    (persist host floats source p b call) root := by
  refine Script.Walks.check_ok (accept_eq_ok.2 hrecord) (walks_look (a := ()) hs (by rw [safePath, hnew]) ?_)
  have hempty : (Function.update root r.recordIdentity (some (Entry.folder p []))) r.recordIdentity = some (.folder p []) :=
    Function.update_self _ _ _
  refine Script.Walks.commit_ok hs fun _ =>
    ⟨true, _, by rw [hnew], hpart [] rfl, walks_look (a := ()) (hpart [] rfl) (safePath_eq hempty) ?_⟩
  refine Script.Walks.bind ((walks_publish hempty rfl rfl (hpart [] rfl) ?_ ?_).mono fun result t _ h => ?_)
  · intro text'
    rw [Function.update_idem]
    exact hpart _ rfl
  · rw [Function.update_idem]
    exact hpart _ rfl
  obtain ⟨rfl, rfl⟩ := h
  rw [Function.update_idem]
  refine Script.Walks.bind ((walks_publish (Function.update_self _ _ _) rfl rfl ?_ ?_ ?_).mono fun result t _ h => ?_)
  · exact hpart _ rfl
  · intro text'
    rw [Function.update_idem]
    exact hpart _ rfl
  · rw [Function.update_idem]
    exact hdone
  · obtain ⟨rfl, rfl⟩ := h
    rw [Function.update_idem]
    exact Script.Walks.pure hdone ⟨rfl, rfl⟩

/-! ### The store -/

omit [DecidableEq F] in
theorem canonicalText_dumps {v : Value F} (hv : v.Canonical) : canonicalText floats (dumps floats v) = .ok (dumps floats v) := by
  rw [canonicalText, loads_dumps floats hv]
  simp [demand, refuse, pure, Except.pure]

theorem keeps_withRecord : Keeps floats (withRecord floats p root b r) r (b.canonicalMaterial floats) := by
  have hat : (withRecord floats p root b r) r.recordIdentity =
      some (.folder p (published (b.canonicalMaterial floats) (r.material floats))) := Function.update_self _ _ _
  refine ⟨?_, ?_, r.material floats, ?_, fromCanonical_material floats r⟩
  · rw [listing, safePath_eq hat, hat]
    rfl
  · rw [fileText, itemsOf_eq hat]
    exact canonicalText_dumps (canonical_payload b)
  · rw [fileText, itemsOf_eq hat]
    exact canonicalText_dumps (canonical_receipt r)

/-- What is kept depends on nothing but the directory of the record. -/
theorem Keeps.congr {root' : Root π} (h : Keeps floats root r text)
    (hsame : root' r.recordIdentity = root r.recordIdentity) : Keeps floats root' r text := by
  obtain ⟨hlisted, hruntime, receiptText, hreceipt, hstored⟩ := h
  refine ⟨?_, ?_, receiptText, ?_, hstored⟩
  · simpa only [listing, safePath, hsame] using hlisted
  · simpa only [fileText, itemsOf, hsame] using hruntime
  · simpa only [fileText, itemsOf, hsame] using hreceipt

theorem exists_of_keeps (h : Keeps floats root r text) : ∃ entry, root r.recordIdentity = some entry := by
  have hlisted := h.listed
  cases hentry : root r.recordIdentity with
  | some entry => exact ⟨entry, rfl⟩
  | none => simp [listing, safePath, hentry, complete, refuse] at hlisted

variable {τ : Type} (environment : FileStep → τ → Nat × τ)

/-- A call of `persist` by a process, with no other process on the root. -/
def persistAlone (host : Host) (floats : Floats F) (source : Digest) (p : π) (e : τ) (b : RuntimeBinding)
    (call : PersistCall) (root : Root π) : Except String SupervisorRuntimeBindingReceipt × Root π :=
  let run := (persist host floats source p b call).run environment root e
  (run.1, run.2.1)

variable {environment} {e : τ}

theorem persistAlone_refused {er : String} (h : accept host floats source b call = .error er) :
    persistAlone environment host floats source p e b call root = (.error er, root) := by
  have hwalk := (Script.Walks.check_error h rfl ⟨rfl, rfl⟩ : Script.Walks (fun t => t = root)
    (fun result t => result = .error er ∧ t = root) (persist host floats source p b call) root).run environment e
  exact Prod.ext hwalk.1 hwalk.2

theorem persistAlone_new (hrecord : record host floats source b call = .ok r) (hnew : root r.recordIdentity = none) :
    persistAlone environment host floats source p e b call root = (.ok r, withRecord floats p root b r) := by
  have hwalk := (walks_new (D := fun _ => True) (p := p) hrecord hnew trivial (fun _ _ => trivial) trivial).run environment e
  exact Prod.ext hwalk.1 hwalk.2

theorem persistAlone_found (hrecord : record host floats source b call = .ok r) {entry : Entry π}
    (hentry : root r.recordIdentity = some entry) :
    (persistAlone environment host floats source p e b call root).2 = root ∧
    ∀ r', (persistAlone environment host floats source p e b call root).1 = .ok r' ↔
      r' = r ∧ ∃ b', contents host floats source r r.readyAt root = .ok b' ∧ b'.same b = true := by
  have hwalk := (walks_found (D := fun _ => True) (p := p) hrecord hentry
    (Q := fun result t => t = root ∧ result = (do
      safePath root r.recordIdentity
      let stored ← contents host floats source r r.readyAt root
      refuse (stored.same b = false) "supervisor runtime record has drifted"
      return r)) trivial ⟨rfl, rfl⟩).run environment e
  refine ⟨hwalk.1, fun r' => ?_⟩
  show ((persist host floats source p b call).run environment root e).1 = .ok r' ↔ _
  rw [hwalk.2]
  simp only [bind_eq_ok, exists_unit, refuse_eq_ok, Bool.not_eq_false, pure_eq_ok]
  constructor
  · rintro ⟨-, b', hread, hsame, rfl⟩
    exact ⟨rfl, b', hread, hsame⟩
  · rintro ⟨rfl, b', hread, hsame⟩
    have hpath : safePath root r'.recordIdentity = .ok () := by
      obtain ⟨-, text, hkeeps, -⟩ := contents_eq_ok.1 hread
      have hlisted := hkeeps.listed
      simp only [listing, bind_eq_ok, exists_unit] at hlisted
      exact hlisted.1
    exact ⟨hpath, b', hread, hsame, rfl⟩

/-- The store on disk, used by one process at a time, is a store of runtime bindings. -/
def store (environment : FileStep → τ → Nat × τ) (host : Host) (floats : Floats F) (source : Digest) (p : π) :
    RuntimeStore host floats source (Root π) τ where
  persist e := persistAlone environment host floats source p e
  read e r time root := ((read host floats source r time : Work π RuntimeBinding).run environment root e).1
  Keeps root r text := Keeps floats root r text
  persist_ok := by
    intro e b call root r root' h
    cases haccept : accept host floats source b call with
    | error er =>
      rw [persistAlone_refused haccept] at h
      cases h
    | ok r' =>
      have hrecord := accept_eq_ok.1 haccept
      cases hentry : root r'.recordIdentity with
      | none =>
        rw [persistAlone_new hrecord hentry] at h
        cases h
        exact ⟨hrecord, .inl keeps_withRecord⟩
      | some entry =>
        obtain ⟨hstate, hresult⟩ := @persistAlone_found _ _ _ _ _ _ p _ _ _ _ _ environment e hrecord _ hentry
        rw [h] at hstate hresult
        obtain ⟨rfl, b', hread, -⟩ := (hresult r).1 rfl
        exact ⟨hrecord, .inr ⟨hstate, b', ((reads_read r r.readyAt).run environment e).1.trans hread⟩⟩
  persist_again := by
    intro e b call root r text hkeeps hrecord hread
    obtain ⟨entry, hentry⟩ := exists_of_keeps hkeeps
    have hcontents := ((reads_read r r.readyAt).run environment e).1.symm.trans hread
    exact ((persistAlone_found hrecord hentry).2 r).2 ⟨rfl, b, hcontents, by simp [RuntimeBinding.same]⟩
  persist_keeps := by
    intro e b call root r text hkeeps
    cases haccept : accept host floats source b call with
    | error er =>
      rw [persistAlone_refused haccept]
      exact hkeeps
    | ok r' =>
      have hrecord := accept_eq_ok.1 haccept
      cases hentry : root r'.recordIdentity with
      | none =>
        rw [persistAlone_new hrecord hentry]
        obtain ⟨entry, hkept⟩ := exists_of_keeps hkeeps
        have hother : r.recordIdentity ≠ r'.recordIdentity := by
          intro hsame
          rw [hsame, hentry] at hkept
          cases hkept
        exact hkeeps.congr (Function.update_of_ne hother _ _)
      | some entry =>
        rw [(persistAlone_found hrecord hentry).1]
        exact hkeeps
  read_iff := by
    intro e r time root text b hkeeps
    rw [((reads_read r time).run environment e).1]
    exact contents_of_keeps hkeeps
  keeps_of_read := by
    intro e r time root b h
    rw [((reads_read r time).run environment e).1] at h
    obtain ⟨-, text, hkeeps, -⟩ := contents_eq_ok.1 h
    exact ⟨text, hkeeps⟩

end Store

end FileStore

/-! ## Both stores -/

/-- What one of the stores accepts it returns, at every evidence time of the window and whatever is persisted
afterwards, exactly when the policy digest of the binding is that of its policy; the two stores give equal receipts. -/
theorem stores_return_exact [DecidableEq F] {π τ : Type} (environment : FileStep → τ → Nat × τ) (p : π)
    (b : RuntimeBinding) (call : PersistCall) :
    (∀ records r records', Memory.persist host floats source b call records = (.ok r, records') →
      (Memory.store host floats source).NoCollision b r records →
      ((Memory.store host floats source).Returns b call r records' ↔ b.reviewPolicyDigest = b.policyDigest host)) ∧
    (∀ e root r root', FileStore.persistAlone environment host floats source p e b call root = (.ok r, root') →
      (FileStore.store environment host floats source p).NoCollision b r root →
      ((FileStore.store environment host floats source p).Returns b call r root' ↔ b.reviewPolicyDigest = b.policyDigest host)) ∧
    ∀ records r records' e root r' root', Memory.persist host floats source b call records = (.ok r, records') →
      FileStore.persistAlone environment host floats source p e b call root = (.ok r', root') → r = r' := by
  refine ⟨?_, ?_, ?_⟩
  · intro records r records' h hfree
    exact RuntimeStore.returns_iff (Memory.store host floats source) (w := ()) h hfree
  · intro e root r root' h hfree
    exact RuntimeStore.returns_iff (FileStore.store environment host floats source p) (w := e) h hfree
  · intro records r records' e root r' root' h h'
    have hmemory := ((Memory.store host floats source).persist_ok (w := ()) h).1
    have hfile := ((FileStore.store environment host floats source p).persist_ok (w := e) h').1
    exact Except.ok.inj (hmemory.symm.trans hfile)

namespace Sample

def floatless : Floats Empty := .empty

def configuration (n : Nat) : Digest := .sha256 (.ofNat 64 n)

/-- A binding without a review policy. -/
def unreviewed : RuntimeBinding where
  resolvedDigest := configuration 1
  workerProfileIdentity := configuration 2
  supervisorProfileIdentities := [configuration 3]
  reviewCompleteRounds := 0
  reviewMaxRounds := 0
  reviewMaxSupervisorAttemptsPerRound := 0
  reviewOnFinalFindings := ""
  reviewPolicyDigest := ""
  profiles := by decide
  reviewPolicy := by decide

/-- The digest of the policy of the binding below. -/
def policy : Hex 64 := Host.sample.digestJson (.obj [("complete_rounds", .num 1), ("max_rounds", .num 2),
  ("max_supervisor_attempts_per_round", .num 1), ("on_final_findings", .str "worker-final-repair-then-merge")])

/-- A binding with its review policy. -/
def reviewed : RuntimeBinding where
  resolvedDigest := configuration 1
  workerProfileIdentity := configuration 2
  supervisorProfileIdentities := [configuration 3]
  reviewCompleteRounds := 1
  reviewMaxRounds := 2
  reviewMaxSupervisorAttemptsPerRound := 1
  reviewOnFinalFindings := "worker-final-repair-then-merge"
  reviewPolicyDigest := policy.text
  profiles := by decide
  reviewPolicy := .inr ⟨by decide, by decide, rfl, rfl, Hex.isHex_text _⟩

def call : PersistCall := ⟨.ofNat 40 4, configuration 5, 10, 20⟩

/-- All of a text is written at once. -/
def atOnce (_ : FileStep) (_ : Unit) : Nat × Unit := (0, ())

def noRecords : Memory := fun _ => none

def emptyRoot : Root Unit := fun _ => none

theorem reviewed_policy : reviewed.reviewPolicyDigest = reviewed.policyDigest .sample := by
  simp only [RuntimeBinding.policyDigest, reviewed, policy]

theorem unreviewed_policy : unreviewed.reviewPolicyDigest ≠ unreviewed.policyDigest .sample := by
  intro h
  have hhex : isHex 64 unreviewed.reviewPolicyDigest = true := h ▸ Hex.isHex_text _
  exact absurd hhex (by decide)

theorem accepted (b : RuntimeBinding) : ∃ r, record Host.sample floatless (configuration 6) b call = .ok r :=
  ⟨_, rfl⟩

end Sample

open Sample in
/-- A binding with its policy is kept in an empty store of either kind. -/
theorem stores_return_reviewed :
    (∃ r records', Memory.persist .sample floatless (configuration 6) reviewed Sample.call noRecords = (.ok r, records') ∧
      (Memory.store .sample floatless (configuration 6)).Returns reviewed Sample.call r records') ∧
    ∃ r root', FileStore.persistAlone atOnce .sample floatless (configuration 6) () () reviewed Sample.call emptyRoot =
    (.ok r, root') ∧
      (FileStore.store atOnce .sample floatless (configuration 6) ()).Returns reviewed Sample.call r root' := by
  obtain ⟨r, hrecord⟩ := accepted reviewed
  have hexact := @stores_return_exact _ .sample floatless (configuration 6) _ _ _ atOnce () reviewed Sample.call
  refine ⟨⟨r, _, Memory.persist_new hrecord rfl, ?_⟩, r, _, FileStore.persistAlone_new hrecord rfl, ?_⟩
  · refine (hexact.1 _ _ _ (Memory.persist_new hrecord rfl) fun _ b' hread => ?_).2 reviewed_policy
    obtain ⟨-, text, htext, -⟩ := Memory.read_eq_ok.1 hread
    cases htext
  · refine (hexact.2.1 () _ _ _ (FileStore.persistAlone_new hrecord rfl) fun _ b' hread => ?_).2 reviewed_policy
    obtain ⟨text, hkeeps⟩ := (FileStore.store atOnce .sample floatless (configuration 6) ()).keeps_of_read hread
    obtain ⟨entry, hentry⟩ := FileStore.exists_of_keeps hkeeps
    cases hentry

open Sample in
/-- A binding without a policy is accepted by both stores; it is never read and is not accepted again. -/
theorem unreviewed_not_returned :
    (∃ r records', Memory.persist .sample floatless (configuration 6) unreviewed Sample.call noRecords = (.ok r, records') ∧
      ∀ time, (∀ b', Memory.read .sample floatless (configuration 6) r time records' ≠ .ok b') ∧
        ∀ r', (Memory.persist .sample floatless (configuration 6) unreviewed Sample.call records').1 ≠ .ok r') ∧
    ∃ r root', FileStore.persistAlone atOnce .sample floatless (configuration 6) () () unreviewed Sample.call
    emptyRoot = (.ok r, root') ∧
      ¬ (FileStore.store atOnce .sample floatless (configuration 6) ()).Returns unreviewed Sample.call r root' := by
  obtain ⟨r, hrecord⟩ := accepted unreviewed
  have hkept : Function.update noRecords r.recordIdentity (some (unreviewed.canonicalMaterial floatless))
      r.recordIdentity = some (unreviewed.canonicalMaterial floatless) := Function.update_self _ _ _
  have hunread : ∀ time b', Memory.read .sample floatless (configuration 6) r time
      (Function.update noRecords r.recordIdentity (some (unreviewed.canonicalMaterial floatless))) ≠ .ok b' := by
    intro time b' hread
    obtain ⟨-, text, htext, hdecodes⟩ := Memory.read_eq_ok.1 hread
    obtain rfl := Option.some.inj (htext.symm.trans hkept)
    exact unreviewed_policy ((fromCanonical_canonicalMaterial _ _ _ _).1 hdecodes.binding).2
  refine ⟨⟨r, _, Memory.persist_new hrecord rfl, fun time => ⟨hunread time, fun r' hagain => ?_⟩⟩, r, _,
    FileStore.persistAlone_new hrecord rfl, fun hreturns => ?_⟩
  · rcases hrun : Memory.persist .sample floatless (configuration 6) unreviewed Sample.call
      (Function.update noRecords r.recordIdentity (some (unreviewed.canonicalMaterial floatless))) with ⟨result, records'⟩
    rw [hrun] at hagain
    cases hagain
    have hsame := Memory.record_of_persist hrun
    rw [hrecord] at hsame
    cases hsame
    obtain ⟨b', hread, -⟩ := (Memory.persist_found hrecord hkept).2.1 (by rw [hrun])
    exact hunread _ b' hread
  · have hread := (hreturns [] ()).1 r.readyAt (le_refl _) r.window.2
    obtain ⟨text, hkeeps⟩ := (FileStore.store atOnce .sample floatless (configuration 6) ()).keeps_of_read hread
    have hdecodes := (((FileStore.store atOnce .sample floatless (configuration 6) ()).read_iff hkeeps).1 hread).2
    exact unreviewed_policy (policyDigest_of_fromCanonical _ _ hdecodes.binding)

end Roundwright.State
