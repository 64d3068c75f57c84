import SessionReplay.Text.Basic

/-!
# Signals

What an operation sets off besides its own effect. Every signal belongs to one of five slots, and
an action has at most one signal in each; `SignalMap.ofList` sorts signals into their slots.
-/

namespace SessionReplay

inductive Signal where
  /-- The page goes to another address; an asynchronous navigation has to be waited for. -/
  | navigation (url : Text) (isAsync : Bool)
  /-- A new page opens and is bound to a variable. -/
  | popup (page : Text)
  /-- A download starts; the suffix tells its variable from others. -/
  | download (suffix : Text)
  /-- A dialog appears; the suffix tells its handler from others. -/
  | dialog (suffix : Text)
deriving DecidableEq

/-- The place of a signal beside others of the same action. -/
inductive Slot where
  | dialog
  | download
  | popup
  | waitForNavigation
  | assertNavigation
deriving DecidableEq, Repr

namespace Slot

def name : Slot → Text
  | .dialog => "dialog"
  | .download => "download"
  | .popup => "popup"
  | .waitForNavigation => "waitForNavigation"
  | .assertNavigation => "assertNavigation"

def all : List Slot := [.dialog, .download, .popup, .waitForNavigation, .assertNavigation]

end Slot

namespace Signal

def slot : Signal → Slot
  | .navigation _ true => .waitForNavigation
  | .navigation _ false => .assertNavigation
  | .popup _ => .popup
  | .download _ => .download
  | .dialog _ => .dialog

def Distinct (signals : List Signal) : Prop := (signals.map slot).Nodup

instance (signals : List Signal) : Decidable (Distinct signals) :=
  inferInstanceAs (Decidable (List.Nodup _))

/-- The first slot that is taken a second time, the slots in `taken` being taken before. -/
def repeatedSlot? (taken : List Slot) : List Signal → Option Slot
  | [] => none
  | signal :: rest =>
    if signal.slot ∈ taken then some signal.slot else repeatedSlot? (signal.slot :: taken) rest

theorem repeatedSlot?_eq_none_iff (taken : List Slot) (signals : List Signal) :
    repeatedSlot? taken signals = none ↔
      Distinct signals ∧ ∀ signal ∈ signals, signal.slot ∉ taken := by
  induction signals generalizing taken with
  | nil => simp [repeatedSlot?, Distinct]
  | cons signal rest ih =>
    simp only [repeatedSlot?, Distinct, List.map_cons, List.nodup_cons, List.mem_map]
    split
    next h => simp [h]
    next h =>
      rw [ih]
      simp only [Distinct, List.mem_cons, forall_eq_or_imp]
      grind

end Signal

structure SignalMap where
  /-- The suffix of the dialog's handler. -/
  dialog : Option Text := none
  /-- The suffix of the download's variable. -/
  download : Option Text := none
  /-- The variable of the new page. -/
  popup : Option Text := none
  /-- The address of a navigation to wait for. -/
  waitForNavigation : Option Text := none
  /-- The address of a navigation to check afterwards. -/
  assertNavigation : Option Text := none
deriving DecidableEq

namespace SignalMap

def place (map : SignalMap) : Signal → SignalMap
  | .navigation url true => { map with waitForNavigation := some url }
  | .navigation url false => { map with assertNavigation := some url }
  | .popup page => { map with popup := some page }
  | .download suffix => { map with download := some suffix }
  | .dialog suffix => { map with dialog := some suffix }

def ofList (signals : List Signal) : SignalMap := signals.foldl place {}

def get? (map : SignalMap) : Slot → Option Signal
  | .dialog => map.dialog.map .dialog
  | .download => map.download.map .download
  | .popup => map.popup.map .popup
  | .waitForNavigation => map.waitForNavigation.map (.navigation · true)
  | .assertNavigation => map.assertNavigation.map (.navigation · false)

theorem get?_place (map : SignalMap) (signal : Signal) (slot : Slot) :
    (map.place signal).get? slot = if signal.slot = slot then some signal else map.get? slot := by
  rcases signal with ⟨_, _ | _⟩ | _ | _ | _ <;> cases slot <;> simp [place, get?, Signal.slot]

end SignalMap
end SessionReplay
