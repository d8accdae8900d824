import UwbRadio.Clock
import UwbRadio.Ranging.Table

/-!
Ways to turn a reported time of flight into a range, in single precision.
-/

namespace UwbRadio.Ranging

abbrev Estimator := Duration → Range

namespace Estimator

def ofFloat (value : Float32) : Range := ⟨value.toBits⟩

def ticks : Estimator := fun duration =>
  ofFloat duration.ticks.toFloat32

def tenths : Estimator := fun duration =>
  ofFloat (duration.ticks.toFloat32 / 10)

def nanoseconds : Estimator := fun duration =>
  ofFloat duration.nanoseconds.toFloat32

end Estimator

end UwbRadio.Ranging
