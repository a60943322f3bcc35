import Mathlib.Data.Rat.Floor
import Mathlib.Tactic.FieldSimp
import Mathlib.Tactic.Linarith
import Strom.Go.Errors
import Strom.Go.Strings

/-!
# The CPU usage (`readCPUStatTotals`, `cpuUsagePercent`)

The usage is taken from two readings of the counters in `/proc/stat`.  All arithmetic on them is
that of `uint64`: where the idle time went backwards its difference wraps around, the clamp makes
it the whole interval, and an interval without idle time is reported as one without load.  Apart
from a first reading of zero, which stands for no reading, the usage is right exactly where the
idle time did not go backwards (`usage_iff_idle_kept`).
-/

namespace Strom.Agent

open Strom.Go

structure CPUStatSample where
  idle : UInt64 := 0
  total : UInt64 := 0
deriving DecidableEq, Repr

/-- `strconv.ParseUint(s, 10, 64)`. -/
def parseUint (s : String) : Except GoError UInt64 :=
  if s.toList = [] || !s.toList.all Char.isDigit then
    .error (.text ("strconv.ParseUint: parsing " ++ quote s ++ ": invalid syntax"))
  else if digitsValue s.toList < 2 ^ 64 then .ok (UInt64.ofNat (digitsValue s.toList))
  else .error (.text ("strconv.ParseUint: parsing " ++ quote s ++ ": value out of range"))

/-- The counters of a line, its first field left out. -/
def parseCounters (path : String) (fields : List String) : Except GoError (List UInt64) :=
  fields.mapM fun field => wrapError ("parse " ++ path ++ " field " ++ quote field) (parseUint field)

/-- The idle time is the sum of `idle` and `iowait`, where the line has it. -/
def cpuTotals (values : List UInt64) : CPUStatSample where
  idle := if 4 < values.length then values.getD 3 0 + values.getD 4 0 else values.getD 3 0
  total := values.foldl (· + ·) 0

/-- The line that `readCPUStatTotals` looks for. -/
def isCPULine (fields : List String) : Bool := 5 ≤ fields.length && fields.head? = some "cpu"

/-- `readCPUStatTotals` on the content of the file. -/
def readCPUStatTotals (path content : String) : Except GoError CPUStatSample :=
  match (((content.toList.splitOn '\n').map String.ofList).map fields).find? isCPULine with
  | none => .error (.text ("cpu totals not found in " ++ path))
  | some line => (parseCounters path line.tail).map cpuTotals

/-- The usage between two samples, before rounding. -/
def usageBetween (previous sample : CPUStatSample) : Option Rat :=
  if previous.total = 0 ∨ sample.total ≤ previous.total then none
  else
    let totalDelta := sample.total - previous.total
    let idleDelta := sample.idle - previous.idle
    let idleDelta := if totalDelta < idleDelta then totalDelta else idleDelta
    some ((totalDelta - idleDelta).toNat / totalDelta.toNat * 100)

/-- `cpuUsagePercent`: the usage since the last sample, which the new one takes the place of.
    Before the first reading that sample is zero. -/
def cpuUsagePercent (path : String) (file : Except GoError String) (lastCPUSample : CPUStatSample) :
    Except GoError (Option Rat) × CPUStatSample :=
  match file >>= readCPUStatTotals path with
  | .error cause => (.error cause, lastCPUSample)
  | .ok sample => (.ok (usageBetween lastCPUSample sample), sample)

/-! ## The usage of an interval -/

/-- The signed change of the idle time, clamped to the interval. -/
def idleChange (previous sample : CPUStatSample) : Int :=
  max 0 (min ((sample.total.toNat : Int) - previous.total.toNat) ((sample.idle.toNat : Int) - previous.idle.toNat))

/-- `100 · (1 − d / T)`. -/
def exactUsage (previous sample : CPUStatSample) : Rat :=
  100 * (1 - (idleChange previous sample : Rat) / ((sample.total.toNat : Rat) - previous.total.toNat))

variable {previous sample : CPUStatSample}

theorem toNat_totalDelta (increased : previous.total < sample.total) :
    (sample.total - previous.total).toNat = sample.total.toNat - previous.total.toNat :=
  UInt64.toNat_sub_of_le _ _ (UInt64.le_of_lt increased)

/-- The part of the interval that is counted as idle. -/
theorem usageBetween_eq (started : previous.total ≠ 0) (increased : previous.total < sample.total) :
    usageBetween previous sample = some (100 * (1 -
      (min (sample.total.toNat - previous.total.toNat) (sample.idle - previous.idle).toNat : Nat) /
        ((sample.total.toNat : Rat) - previous.total.toNat))) := by
  have below : previous.total.toNat < sample.total.toNat := UInt64.lt_iff_toNat_lt.mp increased
  have later : ¬ sample.total ≤ previous.total := UInt64.not_le.mpr increased
  have whole := toNat_totalDelta increased
  have interval : ((sample.total.toNat - previous.total.toNat : Nat) : Rat) =
      (sample.total.toNat : Rat) - previous.total.toNat := Nat.cast_sub below.le
  have nonzero : (sample.total.toNat : Rat) - previous.total.toNat ≠ 0 := by
    have : (previous.total.toNat : Rat) < sample.total.toNat := by exact_mod_cast below
    linarith
  simp only [usageBetween, started, later, or_self, if_false, Option.some.injEq, whole, interval]
  split
  · next clamped =>
    have longer := UInt64.lt_iff_toNat_lt.mp clamped
    rw [whole] at longer
    rw [min_eq_left longer.le, interval, UInt64.sub_self]
    field_simp
    simp
  · next inside =>
    have shorter := UInt64.le_iff_toNat_le.mp (UInt64.not_lt.mp inside)
    rw [UInt64.toNat_sub_of_le _ _ (UInt64.not_lt.mp inside)]
    rw [whole] at shorter ⊢
    rw [min_eq_right shorter, Nat.cast_sub shorter, interval]
    field_simp

/-- The idle time that the wrapped difference stands for. -/
theorem counted_idle_iff (increased : previous.total < sample.total) :
    ((min (sample.total.toNat - previous.total.toNat) (sample.idle - previous.idle).toNat : Nat) : Int) =
      idleChange previous sample ↔ previous.idle ≤ sample.idle := by
  have below : previous.total.toNat < sample.total.toNat := UInt64.lt_iff_toNat_lt.mp increased
  have wrapped := UInt64.toNat_sub sample.idle previous.idle
  have small := previous.idle.toNat_lt
  have small' := sample.idle.toNat_lt
  rw [UInt64.le_iff_toNat_le]
  unfold idleChange
  omega

theorem usageBetween_eq_exact_iff (increased : previous.total < sample.total) :
    usageBetween previous sample = some (exactUsage previous sample) ↔
      previous.total ≠ 0 ∧ previous.idle ≤ sample.idle := by
  by_cases started : previous.total = 0
  · simp [usageBetween, started]
  · have below : (previous.total.toNat : Rat) < sample.total.toNat := by
      exact_mod_cast UInt64.lt_iff_toNat_lt.mp increased
    have nonzero : (sample.total.toNat : Rat) - previous.total.toNat ≠ 0 := by linarith
    rw [usageBetween_eq started increased, ← counted_idle_iff increased]
    simp only [Option.some.injEq, exactUsage, started, ne_eq, not_false_eq_true, true_and]
    constructor
    · intro same
      field_simp at same
      have counted : ((min (sample.total.toNat - previous.total.toNat) (sample.idle - previous.idle).toNat : Nat) : Rat) =
          idleChange previous sample := by linarith
      exact_mod_cast counted
    · intro same
      have counted : ((min (sample.total.toNat - previous.total.toNat) (sample.idle - previous.idle).toNat : Nat) : Rat) =
          idleChange previous sample := by exact_mod_cast same
      rw [counted]

/-- Of two readings in turn the second reports the exact usage of the interval if and only if
    the first one is not zero and the idle time did not go backwards. -/
theorem usage_iff_idle_kept (path first second : String) (last : CPUStatSample)
    (read : readCPUStatTotals path first = .ok previous) (read' : readCPUStatTotals path second = .ok sample)
    (increased : previous.total < sample.total) :
    (cpuUsagePercent path (.ok second) (cpuUsagePercent path (.ok first) last).2).1 =
        .ok (some (exactUsage previous sample)) ↔
      previous.total ≠ 0 ∧ previous.idle ≤ sample.idle := by
  have before : (cpuUsagePercent path (.ok first) last).2 = previous := by
    simp [cpuUsagePercent, bind, Except.bind, read]
  rw [before, ← usageBetween_eq_exact_iff increased]
  simp [cpuUsagePercent, bind, Except.bind, read']

theorem usage_iff_idle_kept_of_sample :
    (cpuUsagePercent "/proc/stat" (.ok "cpu 5 0 5 10 0")
      (cpuUsagePercent "/proc/stat" (.ok "cpu 1 0 1 8 0") {}).2).1 =
        .ok (some (exactUsage { idle := 8, total := 10 } { idle := 10, total := 20 })) ↔
      (10 : UInt64) ≠ 0 ∧ (8 : UInt64) ≤ 10 :=
  usage_iff_idle_kept "/proc/stat" "cpu 1 0 1 8 0" "cpu 5 0 5 10 0" {} (by decide +kernel) (by decide +kernel)
    (by decide)

/-- The time of `iowait` goes back by one tick: an interval of full load counts as idle. -/
theorem full_load_reported_as_idle :
    (cpuUsagePercent "/proc/stat" (.ok "cpu 10 0 10 70 10")
      (cpuUsagePercent "/proc/stat" (.ok "cpu 1 0 1 70 11") {}).2).1 = .ok (some 0) ∧
    exactUsage { idle := 81, total := 83 } { idle := 80, total := 100 } = 100 := by
  decide +kernel

end Strom.Agent
