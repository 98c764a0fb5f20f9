import Mathlib.Algebra.Ring.Nat
import Mathlib.Data.List.Induction
import Rescan.Proofs.Text.Digits
import Rescan.Proofs.Topology.Provenance
import Rescan.Telemetry.Exposition

/-! # What the meter shows

A meter that is ready before anything happens follows its debouncer. Its gauges are the number of
pending keys and the number of targets, and its counters tell what happened: which keys came
before the debouncer was stopped, and how large each drain was that began. Each move keeps this up
by itself, and so does every run, whatever the registry is edited by.
-/

namespace Rescan.Telemetry

open Rescan.Resource (Key)

/-! ## Tallies -/

namespace Tally

/-- How often each of some names occurs. -/
def ofNames (names : List String) : Tally := names.foldl (fun tally name => add 1 name tally) []

theorem ofNames_concat (names : List String) (name : String) :
    ofNames (names ++ [name]) = add 1 name (ofNames names) := List.foldl_concat ..

theorem lookup_add (count : Nat) (name other : String) (tally : Tally) :
    (add count name tally).lookup other =
      if other = name then some ((tally.lookup name).getD 0 + count) else tally.lookup other := by
  induction tally with
  | nil =>
      by_cases hother : other = name
      · simp [add, hother]
      · simp [add, List.lookup_cons, hother, beq_eq_false_iff_ne.mpr hother]
  | cons entry rest ih =>
      obtain ⟨first, number⟩ := entry
      by_cases hfirst : first = name
      · subst hfirst
        by_cases hother : other = first
        · simp [add, hother]
        · have hbeq : (other == first) = false := beq_eq_false_iff_ne.mpr hother
          simp [add, List.lookup_cons, hother, hbeq]
      · have hbeq : (name == first) = false := beq_eq_false_iff_ne.mpr (Ne.symm hfirst)
        by_cases hother : other = first
        · simp [add, hfirst, hother]
        · have hbeq' : (other == first) = false := beq_eq_false_iff_ne.mpr hother
          simp [add, hfirst, List.lookup_cons, hbeq, hbeq', ih]

/-- Adding to a tally may put its name after all others. -/
theorem map_fst_add (count : Nat) (name : String) (tally : Tally) :
    (add count name tally).map Prod.fst =
      if name ∈ tally.map Prod.fst then tally.map Prod.fst else tally.map Prod.fst ++ [name] := by
  induction tally with
  | nil => rfl
  | cons entry rest ih =>
      by_cases hfirst : entry.1 = name
      · simp [add, hfirst]
      · rw [add, if_neg hfirst, List.map_cons, ih]
        by_cases hrest : name ∈ rest.map Prod.fst
        · simp [hrest]
        · simp [hrest, Ne.symm hfirst]

/-- A name has an entry just if it occurs, and the entry is the number of times. -/
theorem lookup_ofNames (names : List String) (name : String) :
    (ofNames names).lookup name =
      if names.count name = 0 then none else some (names.count name) := by
  induction names using List.reverseRecOn with
  | nil => rfl
  | append_singleton names last ih =>
      rw [ofNames_concat, lookup_add]
      by_cases hname : name = last
      · subst last
        rw [if_pos rfl, ih]
        by_cases hnone : names.count name = 0 <;> simp [hnone]
      · simp [hname, ih, Ne.symm hname]

/-- No name has two entries. -/
theorem nodup_ofNames (names : List String) : ((ofNames names).map Prod.fst).Nodup := by
  induction names using List.reverseRecOn with
  | nil => exact .nil
  | append_singleton names last ih =>
      rw [ofNames_concat, map_fst_add]
      split
      · exact ih
      next hnew => exact List.nodup_append.mpr ⟨ih, List.nodup_singleton last, by
          rintro name hname _ hlast rfl
          exact hnew (List.mem_singleton.mp hlast ▸ hname)⟩

end Tally

/-! ## The sum of the drain sizes -/

/-- The sum that is shown is exact as long as it is kept as it is. -/
theorem sumSizes_eq_sum {sizes : List Nat} (hbound : sizes.sum < 2 ^ 53) :
    sumSizes sizes = sizes.sum := by
  induction sizes with
  | nil => rfl
  | cons size sizes ih =>
      rw [List.sum_cons] at hbound
      have hrest : sumSizes sizes = sizes.sum := ih (by omega)
      have hstep : sumSizes (size :: sizes) =
          Text.Double.round (sumSizes sizes + Text.Double.round size) := rfl
      rw [hstep, hrest, Text.Double.round_of_lt (by omega : size < 2 ^ 53),
        Text.Double.round_of_lt (by omega), List.sum_cons, Nat.add_comm]

/-! ## What is shown -/

/-- A meter that is ready shows a sample of the family with the name. -/
def Meter.Shows (meter : Meter) (name : String) (sample : Sample) : Prop :=
  meter.ready = true ∧ ∃ family ∈ meter.families, family.name = name ∧ sample ∈ family.samples

/-- A number that double precision keeps is shown in all its digits. -/
theorem mem_plainSample {n : Nat} (hbound : n < 2 ^ 53) :
    { value := Text.decimal n } ∈ plainSample n := by
  rw [plainSample, Text.Double.render_of_lt hbound]
  exact List.mem_singleton_self _

theorem mem_labelled {label name : String} {tally : Tally} {n : Nat}
    (hlookup : tally.lookup name = some n) (hbound : n < 2 ^ 53) :
    { label := some (label, name), value := Text.decimal n } ∈ labelled label tally := by
  obtain ⟨first, last, rfl, _⟩ := List.lookup_eq_some_iff.mp hlookup
  refine List.mem_map.mpr ⟨(name, n), ?_, by simp only [Text.Double.render_of_lt hbound]⟩
  rw [List.mem_mergeSort]
  exact List.mem_append_right _ List.mem_cons_self

theorem sum_mem_sizeSamples {sizes : List Nat} (hbound : sizes.sum < 2 ^ 53) :
    { ending := "_sum", value := Text.decimal sizes.sum } ∈ sizeSamples sizes := by
  have hvalue : Text.Double.render (sumSizes sizes) = Text.decimal sizes.sum := by
    rw [sumSizes_eq_sum hbound, Text.Double.render_of_lt hbound]
  refine List.mem_append_right _ ?_
  rw [hvalue]
  exact List.mem_cons_of_mem _ List.mem_cons_self

namespace Meter

section Shows

variable {meter : Meter} (hready : meter.ready = true)

include hready

theorem shows_pending (hbound : meter.pending < 2 ^ 53) :
    meter.Shows "scanwatch_debouncer_pending_keys" { value := Text.decimal meter.pending } :=
  ⟨hready, _, List.mem_of_getElem? (i := 3) rfl, rfl, mem_plainSample hbound⟩

theorem shows_targets (hbound : meter.targets < 2 ^ 53) :
    meter.Shows "scanwatch_scan_api_targets" { value := Text.decimal meter.targets } :=
  ⟨hready, _, List.mem_of_getElem? (i := 5) rfl, rfl, mem_plainSample hbound⟩

theorem shows_added {kind : String} {n : Nat} (hlookup : meter.added.lookup kind = some n)
    (hbound : n < 2 ^ 53) :
    meter.Shows "scanwatch_debouncer_keys_added_total"
      { label := some ("kind", kind), value := Text.decimal n } :=
  ⟨hready, _, List.mem_of_getElem? (i := 2) rfl, rfl, mem_labelled hlookup hbound⟩

theorem shows_cycles (hbound : meter.drains.length < 2 ^ 53) :
    meter.Shows "scanwatch_debouncer_drain_cycles_total"
      { value := Text.decimal meter.drains.length } :=
  ⟨hready, _, List.mem_of_getElem? (i := 0) rfl, rfl, mem_plainSample hbound⟩

theorem shows_sizes (hbound : meter.drains.sum < 2 ^ 53) :
    meter.Shows "scanwatch_debouncer_drain_size"
      { ending := "_sum", value := Text.decimal meter.drains.sum } :=
  ⟨hready, _, List.mem_of_getElem? (i := 1) rfl, rfl, sum_mem_sizeSamples hbound⟩

end Shows

end Meter

/-- A report is counted among the outcomes and nowhere else. -/
theorem Meter.countReport_eq (meter : Meter) (report : Debounce.Report) :
    ∃ outcomes, meter.countReport report = { meter with outcomes } := by
  unfold countReport measure
  split
  · exact ⟨meter.outcomes.plus report, rfl⟩
  · exact ⟨meter.outcomes, rfl⟩

end Rescan.Telemetry

namespace Rescan.Debounce.Debouncer

open Rescan.Resource (Key)
open Rescan.Telemetry (Meter Tally)

/-- The key that a move offers before the debouncer is stopped, whether or not it is pending
already. -/
def offered (debouncer : Debouncer) : Move → List Key
  | .add key => if debouncer.queue.accepts then [key] else []
  | _ => []

/-! ## The state and the past -/

/-- The meter of a debouncer shows its state, the keys that were offered and the drains that
began. -/
structure Metered (debouncer : Debouncer) (offered : List Key) (begun : List (List Key)) :
    Prop where
  ready : debouncer.meter.ready = true
  pending_eq : debouncer.meter.pending = debouncer.queue.size
  targets_eq : debouncer.meter.targets = debouncer.registry.size
  added_eq : debouncer.meter.added = Tally.ofNames (offered.map Key.kind)
  drains_eq : debouncer.meter.drains = (begun.map List.length).reverse

namespace Metered

variable {debouncer after : Debouncer} {keys : List Key} {begun : List (List Key)}

theorem new (settings : Settings.Debouncer) :
    Metered (.new settings .empty (Meter.prepare {})) [] [] := ⟨rfl, rfl, rfl, rfl, rfl⟩

/-- With the pending keys and the registry as before, the meter may have counted outcomes. -/
theorem of_eq (hmetered : debouncer.Metered keys begun)
    (hmeter : ∃ outcomes, after.meter = { debouncer.meter with outcomes })
    (hqueue : after.queue.keys = debouncer.queue.keys)
    (hregistry : after.registry = debouncer.registry) : after.Metered keys begun := by
  obtain ⟨outcomes, hmeter⟩ := hmeter
  refine ⟨?_, ?_, ?_, ?_, ?_⟩
  · rw [hmeter]
    exact hmetered.ready
  · rw [hmeter, Queue.size, hqueue]
    exact hmetered.pending_eq
  · rw [hmeter, hregistry]
    exact hmetered.targets_eq
  · rw [hmeter]
    exact hmetered.added_eq
  · rw [hmeter]
    exact hmetered.drains_eq

theorem same (hmetered : debouncer.Metered keys begun) (hmeter : after.meter = debouncer.meter)
    (hqueue : after.queue.keys = debouncer.queue.keys)
    (hregistry : after.registry = debouncer.registry) : after.Metered keys begun :=
  hmetered.of_eq ⟨debouncer.meter.outcomes, hmeter⟩ hqueue hregistry

theorem add (hmetered : debouncer.Metered keys begun) (key : Key) :
    (debouncer.add key).1.Metered (keys ++ debouncer.offered (.add key)) begun := by
  by_cases haccepts : debouncer.queue.accepts = true
  · have hmeter : (debouncer.add key).1.meter = { debouncer.meter with
        added := Tally.add 1 key.kind debouncer.meter.added
        pending := (debouncer.add key).1.queue.size } := by
      simp [Debouncer.add, haccepts, Meter.countKey, Meter.setPending, Meter.measure,
        hmetered.ready]
    rw [offered, if_pos haccepts]
    refine ⟨?_, ?_, ?_, ?_, ?_⟩
    · rw [hmeter]
      exact hmetered.ready
    · rw [hmeter]
    · rw [hmeter]
      exact hmetered.targets_eq
    · rw [hmeter, List.map_append, List.map_singleton, Tally.ofNames_concat, ← hmetered.added_eq]
    · rw [hmeter]
      exact hmetered.drains_eq
  · -- A stopped debouncer measures nothing and keeps its keys.
    have hold : (debouncer.add key).2 ≠ true := by
      rw [ne_eq, add_new_iff]
      exact fun hnew => haccepts (by simp [Queue.accepts, hnew.1])
    rw [offered, if_neg haccepts, List.append_nil]
    refine hmetered.same ?_ (add_keys_of_not_new hold) rfl
    simp only [Debouncer.add, if_neg haccepts]

theorem edit (hmetered : debouncer.Metered keys begun) (change : Topology.Registry.Edit) :
    (debouncer.edit change).Metered keys begun := by
  cases hreports : debouncer.registry.reports change with
  | true =>
      have hmeter : (debouncer.edit change).meter = { debouncer.meter with
          targets := (debouncer.edit change).registry.size } := by
        simp [Debouncer.edit, hreports, Meter.setTargets, Meter.measure, hmetered.ready]
      refine ⟨?_, ?_, ?_, ?_, ?_⟩
      · rw [hmeter]
        exact hmetered.ready
      · rw [hmeter]
        exact hmetered.pending_eq
      · rw [hmeter]
      · rw [hmeter]
        exact hmetered.added_eq
      · rw [hmeter]
        exact hmetered.drains_eq
  | false =>
      refine hmetered.same ?_ rfl (Topology.Registry.apply_of_not_reports hreports)
      simp [Debouncer.edit, hreports]

theorem stop (hmetered : debouncer.Metered keys begun) : debouncer.stop.Metered keys begun := by
  have hmeter : debouncer.stop.meter = { debouncer.meter with pending := 0 } := by
    simp [Debouncer.stop, Meter.setPending, Meter.measure, hmetered.ready]
  exact ⟨hmeter ▸ hmetered.ready, by rw [hmeter]; rfl, hmeter ▸ hmetered.targets_eq,
    hmeter ▸ hmetered.added_eq, hmeter ▸ hmetered.drains_eq⟩

/-- A drain takes all pending keys and its size is counted. -/
theorem take (hmetered : debouncer.Metered keys begun) (attribution : Attribution) :
    (debouncer.take attribution).1.Metered keys (begun ++ [debouncer.queue.keys]) := by
  have hmeter : (debouncer.take attribution).1.meter = { debouncer.meter with
      pending := 0
      drains := debouncer.queue.size :: debouncer.meter.drains } := by
    simp [Debouncer.take, Queue.take, Queue.size, Meter.setPending, Meter.countDrain,
      Meter.measure, hmetered.ready]
  refine ⟨hmeter ▸ hmetered.ready, by rw [hmeter]; rfl, hmeter ▸ hmetered.targets_eq,
    hmeter ▸ hmetered.added_eq, ?_⟩
  rw [hmeter, hmetered.drains_eq, List.map_append, List.reverse_append]
  rfl

theorem quiet {move : Move} (hafter : (debouncer.step move).Metered keys begun)
    (hoffered : debouncer.offered move = []) (hbegun : debouncer.begun move = []) :
    (debouncer.step move).Metered (keys ++ debouncer.offered move)
      (begun ++ debouncer.begun move) := by
  rwa [hoffered, hbegun, List.append_nil, List.append_nil]

section Step

variable (hmetered : debouncer.Metered keys begun)

include hmetered

theorem start (now : Nat) (attribution : Attribution) :
    (debouncer.step (.start now attribution)).Metered keys begun := by
  simp only [Debouncer.step]
  split
  next started hstart =>
    obtain ⟨_, _, _, hstarted, hkeys⟩ := start_eq_ok hstart
    exact hmetered.same (by rw [hstarted]) hkeys (by rw [hstarted])
  · exact hmetered

theorem heed : (debouncer.step .heed).Metered keys begun := by
  rcases debouncer.heed_cases with h | ⟨_, _, h⟩ <;> rw [Debouncer.step, h]
  · exact hmetered
  · exact hmetered.stop

/-- A tick that is due begins a drain. -/
theorem tick (now : Nat) : (debouncer.step (.tick now)).Metered keys
    (begun ++ debouncer.begun (.tick now)) := by
  rcases debouncer.tick_cases now with h | ⟨attribution, ticker, hloop, hdue, h⟩
  · rwa [begun_tick_of_eq h, List.append_nil, Debouncer.step, h]
  · rw [begun_tick_of_loop hloop hdue, Debouncer.step, h]
    exact (hmetered.take attribution).same rfl rfl rfl

theorem poll (site : Site) : (debouncer.step (.poll site)).Metered keys begun := by
  rcases debouncer.poll_cases site with h | ⟨_, _, h⟩ <;> rw [Debouncer.step, h]
  · exact hmetered
  · exact hmetered.same (setDrain_meter ..) (congrArg Queue.keys (setDrain_queue ..))
      (setDrain_frame ..).2.2

/-- When a drain closes its report is counted. -/
theorem closeLoop : (debouncer.step .closeLoop).Metered keys begun := by
  rcases debouncer.closeLoop_cases with h | ⟨_, drain, _, _, h⟩ <;> rw [Debouncer.step, h]
  · exact hmetered
  · exact hmetered.of_eq (debouncer.meter.countReport_eq drain.report) rfl rfl

theorem closeCall (index : Nat) : (debouncer.step (.closeCall index)).Metered keys begun := by
  rcases debouncer.closeCall_cases index with h | ⟨drain, _, _, h⟩ <;> rw [Debouncer.step, h]
  · exact hmetered
  · exact hmetered.of_eq (debouncer.meter.countReport_eq drain.report) rfl rfl

theorem abandonCall (index : Nat) : (debouncer.step (.abandonCall index)).Metered keys begun := by
  rcases debouncer.abandonCall_cases index with ⟨_, h⟩ | ⟨_, _, h⟩ <;> rw [Debouncer.step, h]
  · exact hmetered
  · exact hmetered.same rfl rfl rfl

theorem turn {move : Move} {dispatch : Dispatch} {stage : Stage}
    (hturn : Turn debouncer move dispatch stage) : (debouncer.step move).Metered keys begun := by
  rw [hturn.step_eq]
  exact hmetered.same rfl rfl rfl

/-- Every move keeps the meter in step with the state and notes what it does. -/
theorem step (move : Move) : (debouncer.step move).Metered (keys ++ debouncer.offered move)
    (begun ++ debouncer.begun move) := by
  cases move with
  | add key =>
      have hbegun : debouncer.begun (.add key) = [] := rfl
      rw [hbegun, List.append_nil]
      exact hmetered.add key
  | edit change => exact quiet (hmetered.edit change) rfl rfl
  | start now attribution => exact quiet (hmetered.start now attribution) rfl rfl
  | cancel => exact quiet (hmetered.same rfl rfl rfl) rfl rfl
  | heed => exact quiet hmetered.heed rfl rfl
  | tick now =>
      have hoffered : debouncer.offered (.tick now) = [] := rfl
      rw [hoffered, List.append_nil]
      exact hmetered.tick now
  | call attribution =>
      have hoffered : debouncer.offered (.call attribution) = [] := rfl
      rw [hoffered, List.append_nil]
      exact (hmetered.take attribution).same rfl rfl rfl
  | poll site => exact quiet (hmetered.poll site) rfl rfl
  | closeLoop => exact quiet hmetered.closeLoop rfl rfl
  | closeCall index => exact quiet (hmetered.closeCall index) rfl rfl
  | abandonCall index => exact quiet (hmetered.abandonCall index) rfl rfl
  | send dispatch =>
      refine quiet ?_ rfl rfl
      rcases debouncer.send_cases dispatch with ⟨_, hturn⟩ | ⟨h, _⟩
      · exact hmetered.turn hturn
      · rwa [h]
  | land dispatch outcome =>
      refine quiet ?_ rfl rfl
      rcases debouncer.land_cases dispatch outcome with hturn | h
      · exact hmetered.turn hturn
      · rwa [h]

end Step

/-- A run keeps the meter in step with the state and notes all that it does. -/
theorem run (hmetered : debouncer.Metered keys begun) (moves : List Move) :
    (debouncer.run moves).Metered (keys ++ debouncer.history offered moves)
      (begun ++ debouncer.history Debouncer.begun moves) := by
  induction moves generalizing debouncer keys begun with
  | nil => simpa using hmetered
  | cons move moves ih =>
      have hrest := ih (hmetered.step move)
      rwa [List.append_assoc, List.append_assoc] at hrest

end Metered

end Rescan.Debounce.Debouncer

namespace Rescan.Topology.Feed

open Rescan.Debounce (Debouncer)
open Rescan.Resource (Key)
open Rescan.Telemetry (Meter sumSizes)

/-! ## Feeds with further edits -/

/-- What happens to a feed whose registry is edited directly, too. -/
inductive Happening where
  | move (move : Move)
  | direct (change : Registry.Edit)

/-- The feed after what happens to it. -/
def next (rules : Rules) (feed : Feed) : Happening → Feed
  | .move move => feed.step rules move
  | .direct change => { feed with debouncer := feed.debouncer.step (.edit change) }

/-- The feed after all that happens to it. -/
abbrev after (rules : Rules) (feed : Feed) (happenings : List Happening) : Feed :=
  Steps.run (next rules) feed happenings

/-- The moves that the debouncer of a feed makes. -/
def made (feed : Feed) : Happening → List Debounce.Move
  | .move (.event _) => []
  | .move .edit => feed.edits.head?.toList.map .edit
  | .move (.other move _) => [move]
  | .direct change => [.edit change]

/-- The moves that the debouncer of a feed makes in all that happens to it. -/
abbrev allMade (rules : Rules) (feed : Feed) (happenings : List Happening) : List Debounce.Move :=
  Steps.history (next rules) made feed happenings

theorem debouncer_next (rules : Rules) (feed : Feed) (happening : Happening) :
    (feed.next rules happening).debouncer = feed.debouncer.run (feed.made happening) := by
  cases happening with
  | direct change => rfl
  | move move =>
      cases move with
      | event event => rfl
      | edit =>
          obtain ⟨debouncer, sync, edits⟩ := feed
          cases edits <;> rfl
      | other move hmove => rfl

theorem debouncer_after (rules : Rules) (feed : Feed) (happenings : List Happening) :
    (feed.after rules happenings).debouncer =
      feed.debouncer.run (feed.allMade rules happenings) :=
  Steps.part_run debouncer (debouncer_next rules) happenings

/-- Take a debouncer with an empty registry and a meter that is ready, and let anything happen to
it: keys come, the loop and callers drain, the registry is edited directly and by the events of
services. At every moment the gauges show the number of pending keys and the number of targets.
The counter of a kind is there once a key of the kind was offered before the debouncer was
stopped, and tells how many were, those that were pending already included. As many sizes are
noted as drains began, their sum is the number of keys that the drains took, and so is the sum
that is shown as long as double precision keeps it. So it is with all of these numbers, in which
double precision counts: each of them is shown as it is below `2 ^ 53`. -/
theorem meter_follows (rules : Rules) (settings : Settings.Debouncer)
    (happenings : List Happening) :
    let initial := new settings (Meter.prepare {})
    let moves := initial.allMade rules happenings
    let current := (initial.after rules happenings).debouncer
    let taken := initial.debouncer.history Debouncer.begun moves
    current = initial.debouncer.run moves ∧
    current.meter.pending = current.queue.size ∧
    current.meter.targets = current.registry.size ∧
    (∀ kind, current.meter.added.lookup kind =
      let offered := (initial.debouncer.history Debouncer.offered moves).map Key.kind
      if offered.count kind = 0 then none else some (offered.count kind)) ∧
    (current.meter.added.map Prod.fst).Nodup ∧
    current.meter.drains.length = taken.length ∧
    current.meter.drains.sum = taken.flatten.length ∧
    (taken.flatten.length < 2 ^ 53 → sumSizes current.meter.drains = taken.flatten.length) ∧
    (current.queue.size < 2 ^ 53 → current.meter.Shows "scanwatch_debouncer_pending_keys"
      { value := Text.decimal current.queue.size }) ∧
    (current.registry.size < 2 ^ 53 → current.meter.Shows "scanwatch_scan_api_targets"
      { value := Text.decimal current.registry.size }) ∧
    (∀ kind,
      let offered := (initial.debouncer.history Debouncer.offered moves).map Key.kind
      0 < offered.count kind → offered.count kind < 2 ^ 53 →
      current.meter.Shows "scanwatch_debouncer_keys_added_total"
        { label := some ("kind", kind), value := Text.decimal (offered.count kind) }) ∧
    (taken.length < 2 ^ 53 → current.meter.Shows "scanwatch_debouncer_drain_cycles_total"
      { value := Text.decimal taken.length }) ∧
    (taken.flatten.length < 2 ^ 53 → current.meter.Shows "scanwatch_debouncer_drain_size"
      { ending := "_sum", value := Text.decimal taken.flatten.length }) := by
  intro initial moves current taken
  have hcurrent : current = initial.debouncer.run moves := debouncer_after ..
  have hmetered : current.Metered (initial.debouncer.history Debouncer.offered moves) taken := by
    rw [hcurrent]
    exact (Debouncer.Metered.new settings).run moves
  have hsum : current.meter.drains.sum = taken.flatten.length := by
    rw [hmetered.drains_eq, List.sum_reverse, List.length_flatten]
  have hadded (kind : String) : current.meter.added.lookup kind =
      let offered := (initial.debouncer.history Debouncer.offered moves).map Key.kind
      if offered.count kind = 0 then none else some (offered.count kind) := by
    rw [hmetered.added_eq]
    exact Telemetry.Tally.lookup_ofNames _ kind
  have hlength : current.meter.drains.length = taken.length := by
    rw [hmetered.drains_eq, List.length_reverse, List.length_map]
  refine ⟨hcurrent, hmetered.pending_eq, hmetered.targets_eq, hadded, ?_, hlength, hsum, ?_, ?_,
    ?_, fun kind hpositive hbound => ?_, ?_, ?_⟩
  · rw [hmetered.added_eq]
    exact Telemetry.Tally.nodup_ofNames _
  · rw [← hsum]
    exact Telemetry.sumSizes_eq_sum
  · rw [← hmetered.pending_eq]
    exact Meter.shows_pending hmetered.ready
  · rw [← hmetered.targets_eq]
    exact Meter.shows_targets hmetered.ready
  · refine Meter.shows_added hmetered.ready ((hadded kind).trans ?_) hbound
    exact if_neg (Nat.ne_of_gt hpositive)
  · rw [← hlength]
    exact Meter.shows_cycles hmetered.ready
  · rw [← hsum]
    exact Meter.shows_sizes hmetered.ready

/-- What happens when a service registers, another target is put and not taken back, and keys are
offered before and after a drain, one of them twice. -/
def busy : List Happening :=
  [.move (.event (.applied (scanner "old"))), .move .edit,
    .direct (.put "ns-b" (scannerTarget "other")),
    .direct (.removeEndpoint "ns-b" (scannerTarget "old").endpoint),
    .move (.other (.add ⟨"pod", "ns-a", "x"⟩)), .move (.other (.add ⟨"pod", "ns-a", "x"⟩)),
    .move (.other (.add ⟨"node", "", "n"⟩)), .move (.other (.call ⟨"op"⟩)),
    .move (.other (.add ⟨"pod", "ns-a", "y"⟩))]

/-- One key is pending, both targets are there, three pods were offered, which is shown, and two
keys taken. -/
theorem meter_follows_busy :
    let current := ((new {} (Meter.prepare {})).after {} busy).debouncer
    current.meter.pending = 1 ∧ current.meter.targets = 2 ∧
      current.meter.added.lookup "pod" = some 3 ∧ sumSizes current.meter.drains = 2 ∧
      current.meter.Shows "scanwatch_debouncer_keys_added_total"
        { label := some ("kind", "pod"), value := "3" } := by
  obtain ⟨-, hpending, htargets, hadded, -, -, -, hshown, -, -, hkinds, -⟩ :=
    meter_follows {} {} busy
  have htaken : ((new {} (Meter.prepare {})).debouncer.history Debouncer.begun
      ((new {} (Meter.prepare {})).allMade {} busy)).flatten.length = 2 := by decide +kernel
  have hpods : ((((new {} (Meter.prepare {})).debouncer.history Debouncer.offered
      ((new {} (Meter.prepare {})).allMade {} busy)).map Key.kind).count "pod") = 3 := by
    decide +kernel
  refine ⟨hpending.trans ?_, htargets.trans ?_, (hadded "pod").trans ?_, (hshown ?_).trans htaken,
    ?_⟩
  · decide +kernel
  · decide +kernel
  · decide +kernel
  · rw [htaken]
    decide
  · have hpod := hkinds "pod"
    have hthree : Text.decimal 3 = "3" := by decide +kernel
    simp only [hpods, hthree] at hpod
    exact hpod (by decide) (by decide)

end Rescan.Topology.Feed
