import Tollgate.Text.Shape

namespace Tollgate

structure Sample where
  duration : Nat
  resource : Nat
  memory : Nat
  success : Bool
deriving Repr, DecidableEq, Inhabited

structure Prediction where
  duration : Nat
  resource : Nat
  memory : Nat
  failureRate : Float
  samples : Nat
  confidence : Float

-- The last `window` samples, oldest first. Durations are in nanoseconds.
structure Forecast where
  window : Nat := 1000
  samples : List Sample := []
deriving Repr, DecidableEq, Inhabited

namespace Forecast

-- A window of 0 means the default one.
def ofWindow (window : Nat) : Forecast := { window := if window = 0 then 1000 else window }

def record (f : Forecast) (s : Sample) : Forecast :=
  { f with samples := f.samples.drop (f.samples.length + 1 - f.window) ++ [s] }

def clear (f : Forecast) : Forecast := { f with samples := [] }

def real (n : Nat) : Float := (UInt64.ofNat n).toFloat

-- Rises with the number of successful samples and is full from 50 on.
def confidence (count : Nat) : Float :=
  let data := real (min count 50) / real 50 * 0.4
  data + 0.5 * 0.4 + 0.2

structure Sums where
  weight : Float := 0
  duration : Float := 0
  resource : Float := 0
  memory : Float := 0

def addSample (count : Nat) (sums : Sums) (index : Nat) (s : Sample) : Sums :=
  let weight := real (index + 1) / real count
  { weight := sums.weight + weight
    duration := sums.duration + real s.duration * weight
    resource := sums.resource + real s.resource * weight
    memory := sums.memory + real s.memory * weight }

def sumsFrom (count : Nat) (sums : Sums) (index : Nat) : List Sample → Sums
  | [] => sums
  | s :: rest => sumsFrom count (addSample count sums index s) (index + 1) rest

def average (total weight : Float) : Nat := (total / weight).round.toUInt64.toNat

def predict (f : Forecast) : Prediction :=
  let failed := f.samples.countP fun s => !s.success
  let failureRate := if f.samples.isEmpty then 0 else real failed / real f.samples.length
  let succeeded := f.samples.filter fun s => s.success
  let count := succeeded.length
  if count = 0 then
    { duration := 100000000, resource := 1000, memory := 1048576, failureRate := failureRate
      samples := 0, confidence := confidence 0 }
  else
    let sums := sumsFrom count {} 0 succeeded
    { duration := average sums.duration sums.weight
      resource := average sums.resource sums.weight
      memory := average sums.memory sums.weight
      failureRate := failureRate
      samples := count
      confidence := confidence count }

-- Warm instances worth keeping for the predicted load, from 1 to 20.
def recommended (f : Forecast) (hitRate : Float) : Nat :=
  let p := f.predict
  let millis := p.duration / 1000000
  let slow := if 1000 < millis then millis / 1000 else 0
  let costly := if 100000 < p.resource then p.resource / 100000 else 0
  let missed := if hitRate < 0.5 then 2 else if hitRate < 0.8 then 1 else 0
  max 1 (min 20 (1 + slow + costly + missed))

def describe (f : Forecast) : String :=
  Text.shape "PerformancePredictor"
    [("window", toString f.window), ("samples", toString f.samples.length)]

end Forecast

end Tollgate
