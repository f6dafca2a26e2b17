import Shuli.Octets

/-!
Information elements: a tag, a length octet and a value. A sequence is split from the front until what is
left is no complete element, and a loop over it is a fold over the elements.
-/

namespace Shuli

structure Element where
  tag : UInt8
  value : Octets
  deriving DecidableEq, Repr

def Element.octets (element : Element) : Octets :=
  element.tag :: UInt8.ofNat element.value.length :: element.value

def splitElement : Octets → Option (Element × Octets)
  | tag :: length :: rest =>
    if rest.length < length.toNat then none
    else some (⟨tag, rest.take length.toNat⟩, rest.drop length.toNat)
  | _ => none

def foldElements {β : Type} (step : β → Element → β) : Nat → Octets → β → β
  | 0, _, acc => acc
  | bound + 1, octets, acc =>
    match splitElement octets with
    | some (element, rest) => foldElements step bound rest (step acc element)
    | none => acc

def elementsUpTo : Nat → Octets → List Element
  | 0, _ => []
  | bound + 1, octets =>
    match splitElement octets with
    | some (element, rest) => element :: elementsUpTo bound rest
    | none => []

def elements (octets : Octets) : List Element := elementsUpTo octets.length octets

variable {octets rest : Octets} {element : Element}

theorem foldElements_eq {β : Type} (step : β → Element → β) (bound : Nat) (acc : β) :
    foldElements step bound octets acc = (elementsUpTo bound octets).foldl step acc := by
  induction bound generalizing octets acc with
  | zero => rfl
  | succ bound ih =>
    rw [foldElements, elementsUpTo]
    split
    · exact ih _
    · rfl

end Shuli
