import StructuralSeries.Proofs.Session.Steps

/-!
# Requests that are set up stay as they are, up to one array

The arrays of a request that is set up are read-only, with one exception: the table of outliers among its
bookkeeping is made with the record and can be written to. The exception is handed on to every request that is made
from it by changes that carry no array, and there is no other (`Store.FromSetUp.onlyOutliers`).

So what a snapshot of such a request shows changes with that table and with nothing else, and it does not change
unless a step writes to the path of the table (`Store.snapshot_of_fromSetUp`).
-/

namespace StructuralSeries

/-! ## Values without arrays -/

namespace Value

mutual

/-- Whether there is an array somewhere in a value. -/
def carriesArray : Value → Bool
  | list items | tuple items => anyCarriesArray items
  | mapping entries | record _ entries => entriesCarryArray entries
  | numbers _ _ | objects _ _ _ => true
  | _ => false

def anyCarriesArray : List Value → Bool
  | [] => false
  | v :: vs => carriesArray v || anyCarriesArray vs

def entriesCarryArray : List (String × Value) → Bool
  | [] => false
  | (_, v) :: rest => carriesArray v || entriesCarryArray rest

end

end Value

namespace Held

mutual

/-- A value without arrays leads to none. -/
theorem spots_placed (next : Nat) : ∀ v : Value, v.carriesArray = false → (placed next v).1.spots = []
  | .record kind entries, h => by
    rw [Value.carriesArray] at h
    rw [placed, spots]
    exact spotsAll_placedAll next entries h
  | .numbers _ _, h | .objects _ _ _, h => by cases h
  | .absent, _ | .bool _, _ | .int _, _ | .float _, _ | .complex _, _ | .text _, _ | .fixed _, _ | .list _, _
  | .tuple _, _ | .mapping _, _ => rfl

theorem spotsAll_placedAll (next : Nat) : ∀ entries : List (String × Value),
    Value.entriesCarryArray entries = false → spotsAll (placedAll next entries).1 = []
  | [], _ => rfl
  | (name, v) :: rest, h => by
    rw [Value.entriesCarryArray, Bool.or_eq_false_iff] at h
    rw [placedAll, spotsAll, spots_placed next v h.1, spotsAll_placedAll _ rest h.2]
    rfl

end

end Held

/-! ## The table of outliers -/

namespace Fields

/-- The path of the table of outliers. -/
def outlierPath : String := "hidden.type_outliers"

/-- The names along that path. -/
def outlierNames : List String := ["hidden", "type_outliers"]

theorem pathNames_outlierPath : pathNames outlierPath = outlierNames := by decide +kernel

/-- What a request holds as its table of outliers. -/
def outliers (fields : Fields) : Except Fault Held :=
  match fields.lookup "hidden" with
  | some (.record _ entries) =>
    match entries.lookup "type_outliers" with
    | some h => .ok h
    | none => .error (.noSuchField "type_outliers")
  | some _ => .error (.noSuchField "type_outliers")
  | none => .error (.noSuchField "hidden")

theorem follow_outlierNames (cells : List Content) (fields : Fields) :
    Reached.follow cells fields outlierNames = fields.outliers.map .held := by
  have hhidden : Reached.step cells (.request fields) "hidden" = Reached.field fields "hidden" := by
    simp [Reached.step, Reached.property?]
  rw [Reached.follow, outlierNames, List.foldlM_cons, hhidden, Reached.field, outliers]
  cases fields.lookup "hidden" with
  | none => rfl
  | some h =>
    rw [ok_bind, List.foldlM_cons]
    cases h with
    | constant v => rfl
    | cell i => rfl
    | record kind entries =>
      dsimp only
      rw [Reached.step, Reached.field]
      cases entries.lookup "type_outliers" <;> rfl

theorem outliers_eq_ok_iff {fields : Fields} {h : Held} :
    fields.outliers = .ok h ↔
      ∃ kind entries, fields.lookup "hidden" = some (.record kind entries) ∧ entries.lookup "type_outliers" = some h := by
  unfold outliers
  cases fields.lookup "hidden" with
  | none => simp
  | some g =>
    cases g with
    | constant v => simp
    | cell i => simp
    | record kind entries =>
      simp only [Option.some.injEq, Held.record.injEq]
      constructor
      · intro heq
        split at heq
        · next h' hl =>
          cases heq
          exact ⟨kind, entries, ⟨rfl, rfl⟩, hl⟩
        · cases heq
      · rintro ⟨_, _, ⟨-, rfl⟩, hl⟩
        rw [hl]

/-- The fields lead to no array but the table of outliers. -/
def OnlyOutliers (fields : Fields) : Prop :=
  ∀ a ∈ Held.spotsAll fields, a.names = outlierNames ∧ fields.outliers = .ok (.cell a.number)

theorem onlyOutliers_fields (r : Request) (next : Nat) : OnlyOutliers (r.fields next).1 := by
  have hspots : Held.spotsAll (r.fields next).1 = [⟨outlierNames, next⟩] := by
    rw [Store.spots_fields]
    simp [Form.recordFields, RecordKind.complete, RecordKind.defaults, Held.placedAll, Held.placed,
      Content.ofValue?, noOutliers, Held.spotsAll, Held.spots, Spot.behind, outlierNames]
  have houtliers : outliers (r.fields next).1 = .ok (.cell next) := by
    simp [outliers, Request.fields, Form.recordFields, RecordKind.complete, RecordKind.defaults, Held.placedAll,
      Held.placed, Content.ofValue?, noOutliers, List.lookup_cons]
  intro a ha
  rw [hspots] at ha
  obtain rfl := List.mem_singleton.1 ha
  exact ⟨rfl, houtliers⟩

/-- The spots of fields that are replaced: those of what each field holds afterwards. -/
theorem exists_of_mem_spots_override {old new : Fields} {s : Spot} (hs : s ∈ Held.spotsAll (old.override new)) :
    ∃ e ∈ old, ∃ t ∈ ((new.lookup e.1).getD e.2).spots, t.behind e.1 = s := by
  obtain ⟨e, he, t, ht, rfl⟩ := Held.mem_spotsAll.1 hs
  obtain ⟨e, hold, rfl⟩ := List.mem_map.1 he
  exact ⟨e, hold, t, ht, rfl⟩

theorem lookup_changedAll {next : Nat} {old : Fields} {changes : List (String × Value)} {name : String} {h : Held}
    (hl : (Store.changedAll next old changes).1.lookup name = some h) :
    ∃ start v, (name, v) ∈ changes ∧ h = (Store.changed start old name v).1 := by
  obtain ⟨start, hlookup⟩ := Store.exists_lookup_changedAll next old changes name
  obtain ⟨v, hv, rfl⟩ := Option.map_eq_some_iff.1 (hlookup.symm.trans hl)
  exact ⟨start, v, mem_of_lookup hv, rfl⟩

/-- A change without arrays leads to an array only through a field that it leaves in a record. -/
theorem exists_of_mem_spots_changed {start : Nat} {old : Fields} {name : String} {v : Value}
    (hv : v.carriesArray = false) {s : Spot} (hs : s ∈ (Store.changed start old name v).1.spots) :
    ∃ kind entries new, old.lookup name = some (.record kind entries) ∧
      (Store.changed start old name v).1 = .record kind (Fields.override entries new) ∧
      ∃ e ∈ entries, new.lookup e.1 = none ∧ ∃ t ∈ e.2.spots, t.behind e.1 = s := by
  rcases Store.changed_cases start old name v with hc | ⟨es, kind, entries, rfl, hrecord, hc⟩
  · rw [hc, Held.spots_placed start v hv] at hs
    cases hs
  · have hes : Held.spotsAll (Held.placedAll start es).1 = [] := Held.spotsAll_placedAll start es hv
    refine ⟨kind, entries, _, hrecord, congrArg Prod.fst hc, ?_⟩
    rw [hc, Held.spots] at hs
    obtain ⟨e, he, t, ht, rfl⟩ := exists_of_mem_spots_override hs
    cases hl : (Held.placedAll start es).1.lookup e.1 with
    | none =>
      rw [hl] at ht
      exact ⟨e, he, hl, t, ht, rfl⟩
    | some g =>
      rw [hl] at ht
      have hmem := behind_mem_spots hl ht
      rw [hes] at hmem
      cases hmem

/-- Changes without arrays hand the exception on. -/
theorem OnlyOutliers.override {old : Fields} (h : OnlyOutliers old) {changes : List (String × Value)}
    (hchanges : ∀ c ∈ changes, c.2.carriesArray = false) (next : Nat) :
    OnlyOutliers (old.override (Store.changedAll next old changes).1) := by
  generalize hnew : (Store.changedAll next old changes).1 = new
  intro a ha
  obtain ⟨⟨name, held⟩, hold, t, ht, rfl⟩ := exists_of_mem_spots_override ha
  dsimp only at ht
  cases hl : new.lookup name with
  | none =>
    rw [hl] at ht
    obtain ⟨hnames, hout⟩ := h _ (Held.mem_spotsAll.2 ⟨_, hold, t, ht, rfl⟩)
    obtain ⟨rfl, -⟩ := List.cons_eq_cons.1 hnames
    obtain ⟨kind, entries, hrecord, houtliers⟩ := outliers_eq_ok_iff.1 hout
    refine ⟨hnames, outliers_eq_ok_iff.2 ⟨kind, entries, ?_, houtliers⟩⟩
    rw [lookup_override, hrecord, hl]
    rfl
  | some g =>
    rw [hl] at ht
    rw [← hnew] at hl
    obtain ⟨start, v, hmem, rfl⟩ := lookup_changedAll hl
    obtain ⟨kind, entries, es, hrecord, hc, ⟨inner, g⟩, hinner, hli, u, hu, rfl⟩ :=
      exists_of_mem_spots_changed (hchanges _ hmem) ht
    obtain ⟨hnames, hout⟩ := h _ (behind_mem_spots hrecord (by
      rw [Held.spots]
      exact Held.mem_spotsAll.2 ⟨_, hinner, u, hu, rfl⟩))
    obtain ⟨rfl, hrest⟩ := List.cons_eq_cons.1 hnames
    obtain ⟨rfl, -⟩ := List.cons_eq_cons.1 hrest
    obtain ⟨kind', entries', hrecord', houtliers⟩ := outliers_eq_ok_iff.1 hout
    cases hrecord.symm.trans hrecord'
    -- the record is merged, and its table of outliers is the old one
    have hmerged : (old.override new).lookup "hidden" = some (.record kind (Fields.override entries es)) := by
      rw [lookup_override, hrecord, ← hnew, hl, hc]
      rfl
    refine ⟨hnames, outliers_eq_ok_iff.2 ⟨kind, _, hmerged, ?_⟩⟩
    rw [lookup_override, houtliers, hli]
    rfl

end Fields

/-! ## Requests that come from a set-up -/

namespace Store

/-- The requests that were set up in a session, or made from such requests by changes that carry no array: after
these steps there is such a request under this number. -/
inductive FromSetUp [Text.Reader] : List Step → Nat → Prop
  | setup {steps : List Step} {y frequency : Value} {options : List (String × Value)} {answer : Value}
      (hok : ((Step.setup y frequency options).run (empty.after steps)).2.result = .ok answer) :
      FromSetUp (steps ++ [.setup y frequency options]) (empty.after steps).requests.length
  | evolve {steps : List Step} {number : Nat} {changes : List (String × Value)} {answer : Value}
      (h : FromSetUp steps number) (hchanges : ∀ c ∈ changes, c.2.carriesArray = false)
      (hok : ((Step.evolve number changes).run (empty.after steps)).2.result = .ok answer) :
      FromSetUp (steps ++ [.evolve number changes]) (empty.after steps).requests.length
  | later {steps : List Step} {number : Nat} (h : FromSetUp steps number) (step : Step) :
      FromSetUp (steps ++ [step]) number

/-- **Such a request is there, and it leads to no array but its table of outliers.** -/
theorem FromSetUp.onlyOutliers [Text.Reader] {steps : List Step} {number : Nat} (h : FromSetUp steps number) :
    ∃ fields, (empty.after steps).request number = .ok fields ∧ fields.OnlyOutliers := by
  induction h with
  | @setup steps y frequency options answer hok =>
    obtain ⟨r, hr⟩ := Step.exists_of_run_setup hok
    refine ⟨_, ?_, Fields.onlyOutliers_fields r (empty.after steps).cells.length⟩
    rw [after_concat, (Step.run_setup hr).1]
    exact request_add _ _
  | @evolve steps number changes answer _ hchanges hok ih =>
    obtain ⟨fields, hfields, honly⟩ := ih
    obtain ⟨old, placed, hold, hplaced⟩ := Step.exists_of_run_evolve hok
    cases hfields.symm.trans hold
    have hadd := (Step.run_evolve hold hplaced).1
    obtain ⟨-, rfl⟩ := evolved_eq_ok_iff.1 hplaced
    refine ⟨_, ?_, honly.override hchanges (empty.after steps).cells.length⟩
    rw [after_concat, hadd]
    exact request_add _ _
  | @later steps number _ step ih =>
    obtain ⟨fields, hfields, honly⟩ := ih
    refine ⟨fields, ?_, honly⟩
    rw [after_append]
    exact request_after hfields [step]

end Store

/-! ## Snapshots -/

/-- A record without the table of outliers. -/
def Value.withoutOutliers : Value → Value
  | record kind entries => record kind (entries.filter fun e => e.1 ≠ "type_outliers")
  | v => v

/-- The entries of a snapshot without the table of outliers. -/
def Fields.withoutOutliers (entries : List (String × Value)) : List (String × Value) :=
  entries.map fun e => if e.1 = "hidden" then (e.1, e.2.withoutOutliers) else e

namespace Store

variable {s : Store} {number : Nat} {fields : Fields}

theorem run_get_outliers [Text.Reader] (h : s.request number = .ok fields) :
    ((Step.get number Fields.outlierPath).run s).2 = .ofExcept (fields.outliers.map (Held.value s.cells)) := by
  rw [run_get h, Fields.pathNames_outlierPath, Fields.follow_outlierNames]
  cases fields.outliers <;> rfl

end Store

namespace Fields

variable {fields : Fields} {cells cells' : List Content}

/-- Such a request shows the same exactly if its table of outliers does. -/
theorem OnlyOutliers.entries_eq_iff (h : fields.OnlyOutliers) :
    Held.entries cells fields = Held.entries cells' fields ↔
      fields.outliers.map (Held.value cells) = fields.outliers.map (Held.value cells') := by
  rw [Held.entries_eq_iff]
  constructor
  · intro hcells
    cases hout : fields.outliers with
    | error e => rfl
    | ok held =>
      obtain ⟨kind, entries, hrecord, hl⟩ := outliers_eq_ok_iff.1 hout
      refine congrArg Except.ok (held.value_eq_iff.2 fun a ha => ?_)
      have hmem : a.behind "type_outliers" ∈ (Held.record kind entries).spots := by
        rw [Held.spots]
        exact behind_mem_spots hl ha
      exact hcells ((a.behind "type_outliers").behind "hidden") (behind_mem_spots hrecord hmem)
  · intro houtliers a ha
    rw [(h a ha).2] at houtliers
    exact Held.value_cell_eq_iff.1 (Except.ok.inj houtliers)

/-- And the rest of it always shows the same. -/
theorem OnlyOutliers.withoutOutliers_eq (h : fields.OnlyOutliers) :
    withoutOutliers (Held.entries cells fields) = withoutOutliers (Held.entries cells' fields) := by
  rw [Held.entries_eq_map, Held.entries_eq_map, withoutOutliers, withoutOutliers, List.map_map, List.map_map]
  refine List.map_congr_left fun e he => ?_
  obtain ⟨name, held⟩ := e
  have hnames : ∀ t ∈ held.spots, name :: t.names = outlierNames :=
    fun t ht => (h _ (Held.mem_spotsAll.2 ⟨_, he, t, ht, rfl⟩)).1
  show (if name = "hidden" then (name, (held.value cells).withoutOutliers) else (name, held.value cells)) =
    if name = "hidden" then (name, (held.value cells').withoutOutliers) else (name, held.value cells')
  split
  · next hname =>
    cases held with
    | constant v => rfl
    | cell i => cases hnames ⟨[], i⟩ (List.mem_singleton_self _)
    | record kind inner =>
      rw [Held.value, Held.value, Value.withoutOutliers, Value.withoutOutliers, Held.entries_eq_map,
        Held.entries_eq_map, List.filter_map, List.filter_map]
      refine congrArg (fun es => (name, Value.record kind es)) (List.map_congr_left fun i hi => ?_)
      obtain ⟨hmem, hne⟩ := List.mem_filter.1 hi
      refine congrArg (Prod.mk i.1) ((Held.value_eq_iff _).2 fun t ht => ?_)
      -- an array of this entry would be the table
      have hbehind := hnames (t.behind i.1) (by rw [Held.spots]; exact Held.mem_spotsAll.2 ⟨i, hmem, t, ht, rfl⟩)
      simp only [Spot.behind, outlierNames, List.cons.injEq] at hbehind
      simp [hbehind.2.1] at hne
  · next hname =>
    refine congrArg (Prod.mk name) ((Held.value_eq_iff _).2 fun t ht => ?_)
    exact absurd (List.cons_eq_cons.1 (hnames t ht)).1 hname

end Fields

namespace Store

/-- **A snapshot of a request that comes from a set-up changes exactly with its table of outliers.** The rest of it
stays for good, and all of it does unless a step writes to the path of the table. -/
theorem snapshot_of_fromSetUp [Text.Reader] {steps : List Step} {number : Nat} (h : FromSetUp steps number)
    (later : List Step) : ∃ before now : List (String × Value),
      ((Step.snapshot number).run (empty.after steps)).2 = .ok (.mapping before) ∧
      ((Step.snapshot number).run (empty.after (steps ++ later))).2 = .ok (.mapping now) ∧
      Fields.withoutOutliers now = Fields.withoutOutliers before ∧
      (now = before ↔
        ((Step.get number Fields.outlierPath).run (empty.after (steps ++ later))).2 =
          ((Step.get number Fields.outlierPath).run (empty.after steps)).2) ∧
      ((∀ step ∈ later, step.target? ≠ some Fields.outlierNames) → now = before) := by
  obtain ⟨fields, hfields, honly⟩ := h.onlyOutliers
  have hkept := request_after hfields later
  rw [← after_append] at hkept
  refine ⟨_, _, run_snapshot hfields, run_snapshot hkept, honly.withoutOutliers_eq, ?_, ?_⟩
  · rw [run_get_outliers hfields, run_get_outliers hkept, honly.entries_eq_iff]
    exact ⟨congrArg Report.ofExcept, congrArg Report.result⟩
  · intro hlater
    rw [after_append]
    refine (isShared_after steps).entries_after hfields fun step hstep a ha => ?_
    rw [(honly a ha).1]
    exact hlater step hstep

/-- Writing a seven into the table of outliers changes what the snapshot of a request that was set up shows. -/
theorem snapshot_of_fromSetUp_written :
    ∃ before now : List (String × Value),
      (empty.session [.setup (.list [.int 1, .int 2, .int 3]) (.int 4) [], .snapshot 0,
        .write 0 "hidden.type_outliers" [0, 0] (.int 7), .snapshot 0])[1]? = some (.ok (.mapping before)) ∧
      (empty.session [.setup (.list [.int 1, .int 2, .int 3]) (.int 4) [], .snapshot 0,
        .write 0 "hidden.type_outliers" [0, 0] (.int 7), .snapshot 0])[3]? = some (.ok (.mapping now)) ∧
      now ≠ before := by
  have hok : ((Step.setup (.list [.int 1, .int 2, .int 3]) (.int 4) []).run (empty.after [])).2.result.toOption.map
      (fun _ => ()) = some () := by decide +kernel
  obtain ⟨answer, hok, -⟩ := exists_of_toOption_map hok
  have hfrom : FromSetUp ([] ++ [.setup (.list [.int 1, .int 2, .int 3]) (.int 4) []]) (empty.after []).requests.length :=
    .setup hok
  obtain ⟨before, now, hbefore, hnow, -, hiff, -⟩ := snapshot_of_fromSetUp hfrom
    [.snapshot 0, .write 0 "hidden.type_outliers" [0, 0] (.int 7)]
  refine ⟨before, now, ?_, ?_, fun heq => ?_⟩
  · rw [← hbefore]
    exact getElem?_session empty [_] _ _
  · rw [← hnow]
    exact getElem?_session empty [_, _, _] _ _
  -- the table reads seven and minus one afterwards, and twice minus one before
  · have htable := congrArg
      (fun r : Report Value => (r.result.toOption.bind Value.elements?).map fun es => es.grid.data.map Value.real?)
      (hiff.1 heq)
    exact absurd htable (by decide +kernel)

end Store

end StructuralSeries
