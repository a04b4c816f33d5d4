/-
# Metrics

Passes report what they did as events. The metrics count transitions and failures and mark the
workers that were terminated, and are shown as text in the exposition format: families and samples
sorted, label values escaped, families without samples left out. Samples whose label values read the
same when they are written one behind the other are one sample.

* `Metrics.record` : the metrics after an event;
* `Metrics.render` and `Metrics.serve` : their text, and the answers to web requests.
-/
import TenantFleet.Http.Url

namespace TenantFleet

/-- Something that a pass did. -/
inductive Event
  /-- A machine went from one stage to another. -/
  | transition (controller source target : String)
  /-- A pass failed. -/
  | failure (controller : String)
  /-- A worker was removed. -/
  | termination (clusterId node inst : String)
  deriving DecidableEq, Inhabited

/-! ## Samples -/

/-- The values of the labels of each sample, in the order in which the labels are declared, with its
number. -/
abbrev Samples := List (List String × Nat)

namespace Samples

/-- What tells samples apart: their label values written one behind the other. -/
def key (labels : List String) : String := String.join labels

/-- The number of a sample; zero if there is none. -/
def value (s : Samples) (labels : List String) : Nat :=
  ((s.find? (fun x => key x.1 = key labels)).map Prod.snd).getD 0

/-- The samples with a number set; a sample keeps the labels that it was made with. -/
def set : Samples → List String → Nat → Samples
  | [], labels, n => [(labels, n)]
  | x :: rest, labels, n =>
    if key x.1 = key labels then (x.1, n) :: rest else x :: set rest labels n

/-- The samples with one more. -/
def bump (s : Samples) (labels : List String) : Samples := s.set labels (s.value labels + 1)

/-- A number that was set is found. -/
@[simp] theorem value_set (s : Samples) (labels : List String) (n : Nat) :
    (s.set labels n).value labels = n := by
  induction s with
  | nil => simp [set, value]
  | cons x rest ih =>
    simp only [value] at ih
    by_cases h : key x.1 = key labels
    · simp [set, value, h]
    · simp [set, value, h, ih]

end Samples

/-- All metrics. -/
structure Metrics where
  /-- The transitions, by controller, source and target. -/
  transitions : Samples := []
  /-- The failures, by controller. -/
  failures : Samples := []
  /-- The terminated workers, by cluster, node and instance. -/
  terminations : Samples := []
  deriving DecidableEq, Inhabited

namespace Metrics

/-- The metrics after an event. -/
def record (m : Metrics) : Event → Metrics
  | .transition controller source target =>
    { m with transitions := m.transitions.bump [controller, source, target] }
  | .failure controller => { m with failures := m.failures.bump [controller] }
  | .termination clusterId node inst =>
    { m with terminations := m.terminations.set [clusterId, node, inst] 1 }

/-! ## Text -/

/-- One family of samples. -/
structure Family where
  /-- The name. -/
  name : String
  /-- What the numbers say. -/
  help : String
  /-- What kind of number the family has. -/
  kind : String
  /-- The label names, in the order in which they are declared. -/
  labels : List String
  /-- The samples. -/
  samples : Samples

/-- A character of a label value. -/
def escapeChar (c : Char) : List Char :=
  if c = '\\' then ['\\', '\\']
  else if c = '\n' then ['\\', 'n']
  else if c = '"' then ['\\', '"']
  else [c]

/-- One label with its value. -/
def labelText (label : String × String) : String :=
  label.1 ++ "=\"" ++ String.ofList (label.2.toList.flatMap escapeChar) ++ "\""

namespace Family

/-- The labels of a sample, sorted by name. -/
def labelled (f : Family) (s : List String × Nat) : List (String × String) :=
  (f.labels.zip s.1).mergeSort fun a b => !(b.1 < a.1)

/-- The line of a sample. -/
def line (f : Family) (s : List String × Nat) : String :=
  f.name ++ "\x7b" ++ ",".intercalate ((f.labelled s).map labelText) ++ "\x7d " ++
    toString s.2 ++ "\n"

/-- Whether a sample stands before another one: by the label values, in the order in which they are
shown. -/
def precedes (f : Family) (a b : List String × Nat) : Bool :=
  !((f.labelled b).map Prod.snd < (f.labelled a).map Prod.snd)

/-- The lines of a family; nothing when it has no samples. -/
def text (f : Family) : String :=
  if f.samples.isEmpty then ""
  else
    "# HELP " ++ f.name ++ " " ++ f.help ++ "\n# TYPE " ++ f.name ++ " " ++ f.kind ++ "\n" ++
      String.join ((f.samples.mergeSort f.precedes).map f.line)

end Family

/-- The families, sorted by name. -/
def families (m : Metrics) : List Family := [
  { name := "azure_operator_reconcile_errors_total"
    help := "Number of failed reconciliations"
    kind := "counter"
    labels := ["controller"]
    samples := m.failures },
  { name := "azure_operator_stage_transitions_total"
    help := "Number of state machine stage transitions"
    kind := "counter"
    labels := ["controller", "from", "to"]
    samples := m.transitions },
  { name := "azure_operator_unhealthy_node_termination"
    help := "Worker nodes terminated by the operator"
    kind := "gauge"
    labels := ["cluster_id", "terminated_node", "terminated_instance_id"]
    samples := m.terminations }]

/-- The text of all metrics. -/
def render (m : Metrics) : String := String.join (m.families.map Family.text)

/-! ## Web requests -/

/-- An answer to a web request. -/
structure WebPage where
  /-- The status. -/
  status : Nat
  /-- The type of the body. -/
  contentType : Option String
  /-- The body. -/
  body : String
  deriving DecidableEq, Inhabited

/-- The answer to a request for an address: the metrics, or that the operator is alive and ready.
What is no address cannot be asked for. -/
def serve (m : Metrics) (address : String) : Option WebPage :=
  (Url.parse? address).map fun url =>
    if url.path = "/metrics" then ⟨200, some "text/plain; version=0.0.4", m.render⟩
    else if url.path = "/healthz" ∨ url.path = "/readyz" then
      ⟨200, some "text/plain; charset=utf-8", "ok"⟩
    else ⟨404, none, ""⟩

end Metrics

end TenantFleet
