import Mathlib.Data.List.Basic
import Fluxnode.Foundation.Run
import Fluxnode.Js.Number

/-!
# Consent to bonding

`Platform.bleBondAllow` lets the next device bond.  The request of a device is
answered in the task of the stack, which reads `accept_bonding` for the answer,
reads it again and clears it, while the script may call `bleBondAllow` at any
time.
-/

namespace Fluxnode
namespace Ble

open Foundation

/-- `ESP_GAP_BLE_NC_REQ_EVT` and `ESP_GAP_BLE_SEC_REQ_EVT`, which are answered
by `esp_ble_confirm_reply` and `esp_ble_gap_security_rsp`. -/
inductive BondRequest where
  | ncReq
  | secReq
  deriving DecidableEq, Repr

/-- Where `gap_event_handler` is: outside of a request, in front of its second
look at `accept_bonding`, and in front of `accept_bonding = false`. -/
inductive GapPc where
  | idle
  | replied
  | clearing
  deriving DecidableEq, Repr

/-- What has happened; `inRequest` tells a call that was made while a request
was handled. -/
inductive BondEntry where
  | allow (on : Bool) (inRequest : Bool)
  | reply (kind : BondRequest) (bdAddr : List UInt8) (accept : Bool)
  deriving DecidableEq, Repr

structure Bonding where
  acceptBonding : Bool
  pc : GapPc
  log : List BondEntry

inductive BondAction where
  /-- A request, up to its answer. -/
  | request (kind : BondRequest) (bdAddr : List UInt8)
  /-- The next access of `gap_event_handler`. -/
  | goOn
  /-- `Platform.bleBondAllow` -/
  | bleBondAllow (bond : Js.Number)

/-- `ble_server_accept_bonding`, with the argument of `ble_allow_bond`. -/
def acceptBonding (bond : Js.Number) : Bool :=
  Js.requireUint bond != 0

def Bonding.step : BondAction -> Bonding -> Option Bonding
  | .request kind bdAddr, s =>
      if s.pc = .idle then
        some { s with
          pc := .replied
          log := s.log ++ [.reply kind bdAddr s.acceptBonding] }
      else none
  | .goOn, s =>
      match s.pc with
      | .idle => none
      | .replied =>
          some { s with pc := if s.acceptBonding then .clearing else .idle }
      | .clearing => some { s with acceptBonding := false, pc := .idle }
  | .bleBondAllow bond, s =>
      some { s with
        acceptBonding := Ble.acceptBonding bond
        log := s.log ++ [.allow (Ble.acceptBonding bond) (s.pc != .idle)] }

def Bonding.start : Bonding where
  acceptBonding := false
  pc := .idle
  log := []

/-!
## What a run shows
-/

/-- A call of the script that lets a request pass, unless it is made while
another one is handled. -/
def consent : BondEntry :=
  .allow true false

/-- A request is accepted exactly if consent was given right before it. -/
def AcceptedByConsent (log : List BondEntry) : Prop :=
  forall front kind bdAddr accept back,
    log = front ++ .reply kind bdAddr accept :: back ->
      (accept = true <-> front.getLast? = some consent)

def BondEntry.accepts : BondEntry -> Bool
  | .reply _ _ accept => accept
  | _ => false

def BondEntry.reply? : BondEntry -> Option (BondRequest × List UInt8)
  | .reply kind bdAddr _ => some (kind, bdAddr)
  | _ => none

def BondAction.request? : BondAction -> Option (BondRequest × List UInt8)
  | .request kind bdAddr => some (kind, bdAddr)
  | _ => none

theorem acceptedByConsent_nil : AcceptedByConsent [] := by
  intro front kind bdAddr accept back heq
  cases front <;> cases heq

theorem acceptedByConsent_append {log : List BondEntry} {e : BondEntry}
    (h : AcceptedByConsent log)
    (he : forall kind bdAddr accept, e = .reply kind bdAddr accept ->
      (accept = true <-> log.getLast? = some consent)) :
    AcceptedByConsent (log ++ [e]) := by
  intro front kind bdAddr accept back heq
  rcases List.eq_nil_or_concat back with rfl | ⟨back, last, rfl⟩
  · rcases List.append_inj' heq rfl with ⟨rfl, hlast⟩
    cases hlast
    exact he kind bdAddr accept rfl
  · rw [List.concat_eq_append, ← List.cons_append, ← List.append_assoc] at heq
    rcases List.append_inj' heq rfl with ⟨rfl, -⟩
    exact h front kind bdAddr accept back rfl

def Bonding.unused (s : Bonding) : Nat :=
  match s.pc, s.acceptBonding with
  | .idle, true => 1
  | _, _ => 0

structure Bonding.Inv (s : Bonding) : Prop where
  /-- Outside of a request, the flag says that the last entry is consent. -/
  idle : s.pc = .idle ->
    (s.acceptBonding = true <-> s.log.getLast? = some consent)
  /-- In a request, the last entry is no consent. -/
  busy : s.pc ≠ .idle -> s.log.getLast? ≠ some consent
  accepted : AcceptedByConsent s.log
  /-- Consent is used once. -/
  counted :
    s.log.countP BondEntry.accepts + s.unused ≤ s.log.count consent

theorem Bonding.inv_start : Bonding.start.Inv := by
  refine ⟨fun _ => ⟨?_, ?_⟩, fun h => absurd rfl h, acceptedByConsent_nil,
    by decide⟩
  · intro h
    cases h
  · intro h
    cases h

theorem getLast_concat (log : List BondEntry) (e : BondEntry) :
    (log ++ [e]).getLast? = some e :=
  List.getLast?_concat

theorem counts_concat (log : List BondEntry) (e : BondEntry) :
    (log ++ [e]).countP BondEntry.accepts =
        log.countP BondEntry.accepts + (if e.accepts then 1 else 0) ∧
      (log ++ [e]).count consent =
        log.count consent + (if e = consent then 1 else 0) := by
  constructor
  · rw [List.countP_append, List.countP_singleton]
  · rw [List.count_append, List.count_singleton]
    simp only [beq_iff_eq]

theorem Bonding.Inv.request {s : Bonding} (h : s.Inv) (kind : BondRequest)
    (bdAddr : List UInt8) (hpc : s.pc = .idle) :
    Bonding.Inv { s with
      pc := .replied
      log := s.log ++ [.reply kind bdAddr s.acceptBonding] } := by
  refine ⟨fun hidle => (by cases hidle), fun _ => ?_, ?_, ?_⟩
  · rw [getLast_concat]
    intro heq
    cases heq
  · apply acceptedByConsent_append h.accepted
    intro kind bdAddr accept heq
    cases heq
    exact h.idle hpc
  · have hcounted := h.counted
    rcases s with ⟨flag, pc, log⟩
    cases hpc
    rw [(counts_concat _ _).1, (counts_concat _ _).2]
    cases flag with
    | false => exact hcounted
    | true => exact hcounted

theorem Bonding.Inv.allow_idle {s : Bonding} (h : s.Inv) (on : Bool)
    (hpc : s.pc = .idle) :
    Bonding.Inv { s with
      acceptBonding := on
      log := s.log ++ [.allow on false] } := by
  have hlast : BondEntry.allow on false = consent <-> on = true := by
    simp [consent]
  refine ⟨fun _ => ?_, fun hbusy => absurd hpc hbusy,
    acceptedByConsent_append h.accepted (fun _ _ _ heq => by cases heq), ?_⟩
  · rw [getLast_concat, Option.some.injEq, hlast]
  · have hcounted := h.counted
    rw [(counts_concat _ _).1, (counts_concat _ _).2]
    simp only [BondEntry.accepts, Bool.false_eq_true, if_false, hlast,
      Bonding.unused, hpc]
    cases on with
    | false => lia
    | true => simp only [if_true]; lia

theorem Bonding.Inv.allow_busy {s : Bonding} (h : s.Inv) (on : Bool)
    (hpc : s.pc ≠ .idle) :
    Bonding.Inv { s with
      acceptBonding := on
      log := s.log ++ [.allow on true] } := by
  have hlast : BondEntry.allow on true ≠ consent := by
    simp [consent]
  refine ⟨fun hidle => absurd hidle hpc, fun _ => ?_,
    acceptedByConsent_append h.accepted (fun _ _ _ heq => by cases heq), ?_⟩
  · rw [getLast_concat, Ne, Option.some.injEq]
    exact hlast
  · have hcounted := h.counted
    rw [(counts_concat _ _).1, (counts_concat _ _).2, if_neg hlast]
    rcases s with ⟨flag, pc, log⟩
    cases pc with
    | idle => exact absurd rfl hpc
    | replied => exact hcounted
    | clearing => exact hcounted

theorem Bonding.Inv.goOn {s s' : Bonding} (h : s.Inv)
    (hstep : Bonding.step .goOn s = some s') : s'.Inv := by
  rcases s with ⟨flag, pc, log⟩
  cases pc with
  | idle => cases hstep
  | replied =>
      cases flag with
      | true =>
          cases hstep
          exact ⟨fun hidle => (by cases hidle), fun _ => h.busy (by simp),
            h.accepted, h.counted⟩
      | false =>
          cases hstep
          refine ⟨fun _ => ⟨fun hflag => (by cases hflag), fun hlast => ?_⟩,
            fun hbusy => absurd rfl hbusy, h.accepted, h.counted⟩
          exact absurd hlast (h.busy (by simp))
  | clearing =>
      cases hstep
      refine ⟨fun _ => ⟨fun hflag => (by cases hflag), fun hlast => ?_⟩,
        fun hbusy => absurd rfl hbusy, h.accepted, h.counted⟩
      exact absurd hlast (h.busy (by simp))

theorem Bonding.Inv.step {s s' : Bonding} {action : BondAction} (h : s.Inv)
    (hstep : Bonding.step action s = some s') :
    s'.Inv ∧ s'.log.filterMap BondEntry.reply? =
      s.log.filterMap BondEntry.reply? ++ action.request?.toList := by
  cases action with
  | request kind bdAddr =>
      rw [Bonding.step, Option.ite_none_right_eq_some] at hstep
      rcases hstep with ⟨hpc, heq⟩
      cases heq
      exact ⟨h.request kind bdAddr hpc, List.filterMap_append⟩
  | goOn =>
      have hlog : s'.log = s.log := by
        rcases s with ⟨flag, pc, log⟩
        cases pc <;> cases hstep <;> rfl
      refine ⟨h.goOn hstep, ?_⟩
      rw [hlog]
      exact (List.append_nil _).symm
  | bleBondAllow bond =>
      cases hstep
      refine ⟨?_, List.filterMap_append⟩
      by_cases hpc : s.pc = .idle
      · rw [show (s.pc != .idle) = false by simp [hpc]]
        exact h.allow_idle _ hpc
      · rw [show (s.pc != .idle) = true by simp [hpc]]
        exact h.allow_busy _ hpc

theorem Bonding.Inv.run {s s' : Bonding} {actions : List BondAction}
    (h : s.Inv) (hrun : runAll Bonding.step actions s = some s') :
    s'.Inv ∧ s'.log.filterMap BondEntry.reply? =
      s.log.filterMap BondEntry.reply? ++
        actions.filterMap BondAction.request? := by
  induction actions generalizing s with
  | nil =>
      cases hrun
      exact ⟨h, (List.append_nil _).symm⟩
  | cons action rest ih =>
      rcases runAll_cons hrun with ⟨mid, hmid, hrest⟩
      rcases h.step hmid with ⟨hinv, hreply⟩
      rcases ih hinv hrest with ⟨hlast, hmore⟩
      refine ⟨hlast, ?_⟩
      rw [hmore, hreply, List.append_assoc]
      cases hrequest : action.request? with
      | none => rw [List.filterMap_cons_none hrequest]; rfl
      | some r => rw [List.filterMap_cons_some hrequest]; rfl

/-- In every order of requests, steps of the handler and calls of the script,
every request is answered once, at its address; it is accepted exactly if the
script gave its consent right before, and not while an earlier request was still
handled, since such consent is lost; and no more requests are accepted than
consent was given. -/
theorem bonding_needs_consent {actions : List BondAction} {s : Bonding}
    (hrun : runAll Bonding.step actions Bonding.start = some s) :
    s.log.filterMap BondEntry.reply? =
        actions.filterMap BondAction.request? ∧
      AcceptedByConsent s.log ∧
      s.log.countP BondEntry.accepts ≤ s.log.count consent := by
  rcases Bonding.inv_start.run hrun with ⟨hinv, hreply⟩
  have hcounted := hinv.counted
  exact ⟨hreply, hinv.accepted, by lia⟩

def earlyConsent : List BondAction :=
  [.bleBondAllow (.finite 1), .request .secReq [1, 2, 3, 4, 5, 6], .goOn,
    .bleBondAllow (.finite 1), .goOn, .request .secReq [6, 5, 4, 3, 2, 1]]

theorem bonding_needs_consent_early :
    exists s, runAll Bonding.step earlyConsent Bonding.start = some s ∧
      s.log.filterMap BondEntry.reply? =
        [(.secReq, [1, 2, 3, 4, 5, 6]), (.secReq, [6, 5, 4, 3, 2, 1])] ∧
      AcceptedByConsent s.log ∧ s.log.countP BondEntry.accepts = 1 := by
  refine ⟨_, rfl, ?_⟩
  have h := @bonding_needs_consent earlyConsent _ rfl
  exact ⟨h.1, h.2.1, by decide⟩

end Ble
end Fluxnode
