import ContractBridge.Random.Generator

/-!
# Recorded generators

A generator that plays back a recording and, once the recording has run out, goes on with a linear
congruential sequence that starts from zero.  It makes a shuffle repeatable word by word.
-/

namespace ContractBridge

namespace Generator

def congruentialStep (word : UInt32) : UInt32 :=
  word * 1664525 + 1013904223

def recorded (recording : Array UInt32) : Generator :=
  ofWords fun position =>
    recording.getD position
      (Nat.repeat congruentialStep (position + 1 - recording.size) 0)

end Generator

end ContractBridge
