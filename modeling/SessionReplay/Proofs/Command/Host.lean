import SessionReplay.Command.Host
import SessionReplay.Proofs.Text.Control

/-!
# What outputs show

A terminal shows a text as it is, and any other output what is left of it without control sequences. A
text that is printed is shown, or it is refused and nothing is shown.
-/

namespace SessionReplay

variable {ε : Type} {host : Host ε} {isTerminal : Bool} {text shown : Text}

/-- What is shown of a text on a terminal or elsewhere. -/
def Shows (isTerminal : Bool) (text shown : Text) : Prop :=
  if isTerminal then text = shown else text.Bares shown

theorem shows_iff : Shows isTerminal text shown ↔ shownOn isTerminal text = shown := by
  cases isTerminal with
  | true => rfl
  | false => exact Text.bares_iff

/-- A text is shown as a whole on a terminal, and elsewhere if no control sequence is in it. -/
theorem Shows.eq_iff (h : Shows isTerminal text shown) : shown = text ↔
    isTerminal = true ∨ ∀ sequence, Text.IsControl sequence → ¬ sequence <:+: text := by
  cases isTerminal with
  | true => exact iff_of_true h.symm (.inl rfl)
  | false => exact h.eq_iff.trans (or_iff_right Bool.false_ne_true).symm

theorem shownOn_append {front : Text} (h : '\x1b' ∉ front) (rest : Text) :
    shownOn isTerminal (front ++ rest) = front ++ shownOn isTerminal rest := by
  cases isTerminal with
  | true => rfl
  | false => exact Text.withoutControls_append h rest

theorem print_eq_ok (h : host.refuses (shownOn host.outIsTerminal text) = none) :
    host.print text = .ok (shownOn host.outIsTerminal text) := by
  rw [Host.print, h]

theorem print_eq_error {fault : ε}
    (h : host.refuses (shownOn host.outIsTerminal text) = some fault) :
    host.print text = .error fault := by
  rw [Host.print, h]

end SessionReplay
