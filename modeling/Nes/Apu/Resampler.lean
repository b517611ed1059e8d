/-! Resampling: of the stream of one level per processor cycle, the samples that the output rate
asks for. -/
namespace Nes

structure Resampler where
  cyclesPerSample : Float
  phase : Float := 0
  samples : Array Int16 := #[]
  deriving Inhabited

namespace Resampler

def ofRates (clockHz : Float) (sampleRate : Nat) : Resampler where
  cyclesPerSample := clockHz / Float.ofNat (max sampleRate 1)

def due (r : Resampler) : Bool :=
  r.phase + 1 ≥ r.cyclesPerSample

def emit (r : Resampler) (sample : Int16) : Resampler :=
  { r with phase := r.phase + 1 - r.cyclesPerSample, samples := r.samples.push sample }

def skip (r : Resampler) : Resampler :=
  { r with phase := r.phase + 1 }

def drain (r : Resampler) : Array Int16 × Resampler :=
  (r.samples, { r with samples := #[] })

def restart (r : Resampler) : Resampler :=
  { cyclesPerSample := r.cyclesPerSample }

end Resampler
end Nes
