import CellularCall.Lib.OrdMap
import Mathlib.Data.List.Induction

/-!
# The handlers behind the callbacks

`ImsCallClient` and `SatelliteCallClient` keep one handler for each slot.  A callback of
the service looks the handler of its slot up and sends it an event; the lookup is
`handlerMap_[slotId]`, which puts a null handler where there is none, and the
registration is `insert`, which changes nothing where there is an entry.  Some callbacks
of the IMS service look nothing up.

So the first to name a slot decides, until `UnInit` (`getHandler_iff`): a handler that
registers first gets the callbacks of the slot, also when another registers later, and a
callback that looks for a handler first cuts the slot off.
-/

namespace CellularCall

open Lib

variable {H : Type}

/-- `handlerMap_`.  An entry may be a null handler. -/
abbrev HandlerMap (H : Type) := OrdMap Int (Option H)

namespace HandlerMap

/-- `RegisterImsCallCallbackHandler` and `RegisterSatelliteCallCallbackHandler`: a null
handler is refused. -/
def registerCallbackHandler (m : HandlerMap H) (slotId : Int) (handler : Option H) :
    HandlerMap H :=
  match handler with
  | none => m
  | some h => m.insertNew slotId (some h)

/-- `GetHandler`. -/
def getHandler (m : HandlerMap H) (slotId : Int) : HandlerMap H × Option H :=
  (m.insertNew slotId none, (m.get? slotId).join)

/-- A callback of the services, as far as it uses the map.

* `setMuteResponse` is the one of the IMS service that only logs.
* `utResponse csFallback` is one of the nine IMS responses that start their command again
  over CS, and return, where the result is `IMS_ERROR_UT_CS_FALLBACK`: those to `GetClip`,
  to `GetClir` and `SetClir`, and to the two commands each of call transfer, call
  restriction and call waiting.
* `plain` is any other. -/
inductive Callback
  | setMuteResponse
  | utResponse (csFallback : Bool)
  | plain
  deriving DecidableEq

/-- The callback calls `GetHandler`. -/
def Callback.looksUp : Callback → Bool
  | .setMuteResponse => false
  | .utResponse csFallback => !csFallback
  | .plain => true

/-- What is done with the map.  A callback that looks its handler up is delivered where
`GetHandler` finds one, and answered with `TELEPHONY_ERR_LOCAL_PTR_NULL` otherwise. -/
inductive Use (H : Type)
  | register (slotId : Int) (handler : Option H)
  | callback (slotId : Int) (callback : Callback)
  | unInit
  deriving DecidableEq

def use (m : HandlerMap H) : Use H → HandlerMap H
  | .register slotId handler => m.registerCallbackHandler slotId handler
  | .callback slotId c => if c.looksUp then (m.getHandler slotId).1 else m
  | .unInit => ∅

/-- The map after some uses. -/
def after (uses : List (Use H)) : HandlerMap H := uses.foldl use ∅

/-- A use names a slot, by a handler for it or by a callback of it that looks for one. -/
def Use.names (slotId : Int) : Use H → Bool
  | .register s (some _) => decide (s = slotId)
  | .register _ none => false
  | .callback s c => c.looksUp && decide (s = slotId)
  | .unInit => false

/-- What a use that names a slot puts there, if nothing is there. -/
def Use.handler? : Use H → Option H
  | .register _ handler => handler
  | _ => none

/-- The uses since the last `UnInit`. -/
def sinceUnInit (uses : List (Use H)) : List (Use H) :=
  (uses.reverse.takeWhile fun
    | .unInit => false
    | _ => true).reverse

theorem after_append_singleton (uses : List (Use H)) (u : Use H) :
    after (uses ++ [u]) = (after uses).use u := by
  unfold after
  rw [List.foldl_append]
  rfl

theorem sinceUnInit_unInit (uses : List (Use H)) : sinceUnInit (uses ++ [.unInit]) = [] := by
  unfold sinceUnInit
  simp

theorem sinceUnInit_append_singleton (uses : List (Use H)) {u : Use H} (hu : u ≠ .unInit) :
    sinceUnInit (uses ++ [u]) = sinceUnInit uses ++ [u] := by
  unfold sinceUnInit
  cases u with
  | unInit => exact absurd rfl hu
  | _ => simp

/-- The first use that names a slot puts its handler there, and no other changes the
slot. -/
theorem get?_use {m : HandlerMap H} {u : Use H} (hu : u ≠ .unInit) (slotId : Int) :
    (m.use u).get? slotId =
      (m.get? slotId).or (if u.names slotId then some u.handler? else none) := by
  have hinsert : ∀ (s : Int) (handler : Option H), (m.insertNew s handler).get? slotId =
      (m.get? slotId).or (if decide (s = slotId) then some handler else none) := by
    intro s handler
    simp only [OrdMap.get?_insertNew_or, decide_eq_true_eq, eq_comm (a := s)]
  cases u with
  | unInit => exact absurd rfl hu
  | callback s c =>
    cases hlooks : c.looksUp with
    | true => simpa [use, Use.names, hlooks, getHandler, Use.handler?] using hinsert s none
    | false => simp [use, Use.names, hlooks]
  | register s handler =>
    cases handler with
    | none => exact (Option.or_none).symm
    | some h => exact hinsert s (some h)

theorem get?_after (uses : List (Use H)) (slotId : Int) :
    (after uses).get? slotId =
      ((sinceUnInit uses).find? (Use.names slotId)).map Use.handler? := by
  induction uses using List.reverseRecOn with
  | nil => rfl
  | append_singleton uses u ih =>
    rw [after_append_singleton]
    by_cases hu : u = .unInit
    · rw [hu, sinceUnInit_unInit]
      rfl
    · rw [get?_use hu, ih, sinceUnInit_append_singleton uses hu, List.find?_append,
        List.find?_singleton]
      cases (sinceUnInit uses).find? (Use.names slotId) with
      | some first => rfl
      | none =>
        cases hnames : u.names slotId with
        | true => simp
        | false => simp

/-- A callback that looks its handler up is delivered to a handler exactly where the first
use since the last `UnInit` that named the slot registered this handler. -/
theorem getHandler_iff (uses : List (Use H)) (slotId : Int) (h : H) :
    ((after uses).getHandler slotId).2 = some h ↔
      ∃ before later, sinceUnInit uses = before ++ .register slotId (some h) :: later ∧
        ∀ u ∈ before, u.names slotId = false := by
  show ((after uses).get? slotId).join = some h ↔ _
  rw [get?_after, Option.join_eq_some_iff, Option.map_eq_some_iff]
  constructor
  · intro hfirst
    obtain ⟨u, hfind, hhandler⟩ := hfirst
    obtain ⟨hnames, before, later, heq, hbefore⟩ := List.find?_eq_some_iff_append.mp hfind
    have hu : u = .register slotId (some h) := by
      cases u with
      | register s handler =>
        cases hhandler
        have hs : s = slotId := of_decide_eq_true hnames
        rw [hs]
      | _ => cases hhandler
    exact ⟨before, later, hu ▸ heq, fun u' hu' => by simpa using hbefore u' hu'⟩
  · intro hsplit
    obtain ⟨before, later, heq, hbefore⟩ := hsplit
    refine ⟨.register slotId (some h), ?_, rfl⟩
    rw [heq, List.find?_eq_some_iff_append]
    exact ⟨decide_eq_true rfl, before, later, rfl, fun u hu => by simp [hbefore u hu]⟩

/-- A callback before the registration cuts the slot off, unless it looks for no handler. -/
example : (((after [.callback 0 .plain, .register 0 (some 'a')]).getHandler 0).2,
    ((after [.callback 0 .setMuteResponse, .register 0 (some 'a')]).getHandler 0).2) =
      (none, some 'a') := by
  decide

end HandlerMap

end CellularCall
