import Rescan.Telemetry.Meter
import Rescan.Text.Double

/-! # The exposition of measurements

Measurements are shown as families of samples in order of their names. Each family has a line of
help, a line with its type and a line for each sample; a family that is told apart by a label is
left out while it has no samples. Before the meter is ready there is nothing to show.
-/

namespace Rescan.Telemetry

/-- One line of a family. -/
structure Sample where
  /-- What follows the name of the family in the name of the sample. -/
  ending : String := ""
  /-- The label of the sample with its value. -/
  label : Option (String × String) := none
  /-- The value, written. -/
  value : String
  deriving DecidableEq, Repr

/-- A group of samples. -/
structure Family where
  name : String
  help : String
  type : String
  samples : List Sample
  deriving DecidableEq, Repr

/-- The text of a label, with a backslash before backslashes and quotation marks and with `\n`
for the end of a line. -/
def escapeLabel (text : String) : String :=
  String.join (text.toList.map fun c =>
    if c = '\\' then "\\\\" else if c = '"' then "\\\"" else if c = '\n' then "\\n"
    else String.singleton c)

def Sample.render (family : String) (sample : Sample) : String :=
  let label := match sample.label with
    | some (name, value) => "\x7b" ++ name ++ "=\"" ++ escapeLabel value ++ "\"\x7d"
    | none => ""
  family ++ sample.ending ++ label ++ " " ++ sample.value ++ "\n"

def Family.render (family : Family) : String :=
  if family.samples.isEmpty then ""
  else
    "# HELP " ++ family.name ++ " " ++ family.help ++ "\n# TYPE " ++ family.name ++ " " ++
      family.type ++ "\n" ++ String.join (family.samples.map (Sample.render family.name))

def plainSample (n : Nat) : List Sample := [{ value := Text.Double.render n }]

/-- Numbers told apart by a label, in order of its values. -/
def labelled (label : String) (tally : Tally) : List Sample :=
  (tally.mergeSort fun a b => a.1 ≤ b.1).map fun (value, count) =>
    { label := some (label, value), value := Text.Double.render count }

/-- The upper bounds of the groups of drain sizes. -/
def sizeBounds : List Nat := [0, 1, 5, 10, 25, 50, 100, 250, 500, 1000]

/-- The sum of numbers in double precision, from the last to the first. -/
def sumSizes (sizes : List Nat) : Nat :=
  sizes.foldr (fun size sum => Text.Double.round (sum + Text.Double.round size)) 0

/-- How many drains are no larger than each bound, and all drains together. -/
def sizeSamples (sizes : List Nat) : List Sample :=
  let within (bound : Nat) : Sample :=
    { ending := "_bucket", label := some ("le", Text.decimal bound)
      value := Text.decimal (sizes.countP (· ≤ bound)) }
  sizeBounds.map within ++
    [{ ending := "_bucket", label := some ("le", "+Inf"), value := Text.decimal sizes.length },
      { ending := "_sum", value := Text.Double.render (sumSizes sizes) },
      { ending := "_count", value := Text.decimal sizes.length }]

/-- The outcomes that have been counted. -/
def outcomeTally (outcomes : Debounce.Report) : Tally :=
  ([.failure, .noTarget, .panic, .success].map fun outcome : Debounce.Outcome =>
    (outcome.word, outcomes.count outcome)).filter (·.2 != 0)

namespace Meter

/-- The families of a meter in order of their names. -/
def families (meter : Meter) : List Family :=
  [{ name := "scanwatch_debouncer_drain_cycles_total"
     help := "Number of debouncer drain cycles"
     type := "counter"
     samples := plainSample meter.drains.length },
   { name := "scanwatch_debouncer_drain_size"
     help := "Keys drained per cycle"
     type := "histogram"
     samples := sizeSamples meter.drains },
   { name := "scanwatch_debouncer_keys_added_total"
     help := "Resource keys forwarded to the debouncer by kind"
     type := "counter"
     samples := labelled "kind" meter.added },
   { name := "scanwatch_debouncer_pending_keys"
     help := "Keys waiting for the next drain cycle"
     type := "gauge"
     samples := plainSample meter.pending },
   { name := "scanwatch_dispatches_total"
     help := "Scan dispatch attempts by outcome"
     type := "counter"
     samples := labelled "outcome" (outcomeTally meter.outcomes) },
   { name := "scanwatch_scan_api_targets"
     help := "Registered scan-API targets"
     type := "gauge"
     samples := plainSample meter.targets }]

def expose (meter : Meter) : String :=
  if meter.ready then String.join (meter.families.map Family.render) else ""

end Meter

end Rescan.Telemetry
