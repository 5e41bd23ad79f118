/-!
# Activations

The function that an arithmetic or pooling operator applies to each of its results. All of them
clamp the result to a range; `TensorGraph.Kernel.Clamp` gives the ranges.
-/

namespace TensorGraph

inductive Activation where
  | none
  | relu
  | reluN1To1
  | relu6
deriving DecidableEq

def Activation.name : Activation → String
  | none => "None"
  | relu => "Relu"
  | reluN1To1 => "ReluN1To1"
  | relu6 => "Relu6"

instance : ToString Activation := ⟨Activation.name⟩

end TensorGraph
