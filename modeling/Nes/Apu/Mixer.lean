/-! The mixer: the levels of the five channels become one sample, on a curve and in single
precision. Silence is zero and full scale is near the largest sample. -/
namespace Nes.Mixer

def pulseCurve (sum : Float32) : Float32 :=
  if sum > 0 then 95.88 / (8128.0 / sum + 100.0) else 0

def restCurve (sum : Float32) : Float32 :=
  if sum > 0 then 159.79 / (1.0 / sum + 100.0) else 0

def fullScale : Float32 :=
  32767.0

def clamp (sample : Float32) : Float32 :=
  if sample < 0 then 0 else if sample > fullScale then fullScale else sample

def mix (pulse1 pulse2 triangle noise dmc : Nat) : Int16 :=
  let pulses := pulseCurve (Float32.ofNat pulse1 + Float32.ofNat pulse2)
  let rest := restCurve
    (Float32.ofNat triangle / 8227.0 + Float32.ofNat noise / 12241.0 + Float32.ofNat dmc / 22638.0)
  (clamp ((pulses + rest) * fullScale)).toInt16

end Nes.Mixer
