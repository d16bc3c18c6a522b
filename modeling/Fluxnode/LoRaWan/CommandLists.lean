import Fluxnode.LoRaWan.MacCommands

/-!
# Lists of complete commands

The options of a frame are complete commands one behind the other.  The index
of the decoder falls one byte behind with every `rx_timing_setup_req`, so what
is decoded after one is right only if the bytes that far in front of a command
look like it; and the count of the bytes runs out without an error when the
last command is cut short.
-/

namespace Fluxnode
namespace LoRaWan

open Js

structure MacCommand where
  id : CommandId
  payload : Bytes
  length_eq : payload.length = id.payloadLength
  deriving DecidableEq, Repr

def MacCommand.encode (c : MacCommand) : Bytes :=
  c.id.byte :: c.payload

def MacCommand.report (c : MacCommand) : MACcmd :=
  c.id.entry c.payload

def encodeAll (cmds : List MacCommand) : Bytes :=
  cmds.flatMap MacCommand.encode

def idsOf (cmds : List MacCommand) : List CommandId :=
  cmds.map MacCommand.id

/-- The number of `rx_timing_setup_req` among the commands. -/
def lag (cmds : List MacCommand) : Nat :=
  cmds.countP (fun c => c.id == .rxTimingSetupReq)

theorem idsOf_cons (c : MacCommand) (rest : List MacCommand) :
    idsOf (c :: rest) = c.id :: idsOf rest :=
  rfl

theorem encodeAll_cons (c : MacCommand) (rest : List MacCommand) :
    encodeAll (c :: rest) = c.encode ++ encodeAll rest :=
  List.flatMap_cons

theorem encodeAll_append (front back : List MacCommand) :
    encodeAll (front ++ back) = encodeAll front ++ encodeAll back :=
  List.flatMap_append

theorem length_encodeAll (cmds : List MacCommand) :
    (encodeAll cmds).length = countAll (idsOf cmds) := by
  induction cmds with
  | nil => rfl
  | cons c rest ih =>
      rw [encodeAll_cons, List.length_append, MacCommand.encode,
        List.length_cons, c.length_eq, ih, idsOf_cons, countAll_cons]
      lia

theorem CommandId.advance_add (id : CommandId) :
    id.advance + (if id == .rxTimingSetupReq then 1 else 0) =
      1 + id.payloadLength := by
  cases id <;> rfl

theorem advanceAll_le_countAll (ids : List CommandId) :
    advanceAll ids ≤ countAll ids := by
  induction ids with
  | nil => exact Nat.le_refl 0
  | cons id rest ih =>
      have hadvance := id.advance_add
      rw [advanceAll_cons, countAll_cons]
      lia

/-- The index falls one byte behind with every `rx_timing_setup_req`. -/
theorem advanceAll_add_lag (cmds : List MacCommand) :
    advanceAll (idsOf cmds) + lag cmds = countAll (idsOf cmds) := by
  induction cmds with
  | nil => rfl
  | cons c rest ih =>
      have hc := c.id.advance_add
      rw [idsOf_cons, advanceAll_cons, countAll_cons, lag, List.countP_cons]
      rw [lag] at ih
      lia

theorem advanceAll_idsOf (cmds : List MacCommand) :
    advanceAll (idsOf cmds) = (encodeAll cmds).length - lag cmds := by
  rw [length_encodeAll, ← advanceAll_add_lag, Nat.add_sub_cancel]

/-!
## Decoding a list of commands
-/

/-- The commands are decoded without an error to one entry each, in order. -/
def DecodesAll (cmds : List MacCommand) : Prop :=
  exists r, foptsDecode (encodeAll cmds) = .ok r ∧ r.error = false ∧
    r.MAC = cmds.map MacCommand.report

/-- The bytes in front of each command, as many as there are
`rx_timing_setup_req` before it, begin with its id and report the same. -/
def LooksAlikeBehind (cmds : List MacCommand) : Prop :=
  forall front c back, cmds = front ++ c :: back ->
    (encodeAll cmds)[(encodeAll front).length - lag front]? = some c.id.byte ∧
      c.id.entry (((encodeAll cmds).drop
        ((encodeAll front).length - lag front + 1)).take c.id.payloadLength) =
        c.report

def MACcmd.id : MACcmd -> CommandId
  | .link_check_req => .linkCheckReq
  | .link_adr_req _ _ _ _ _ => .linkAdrReq
  | .duty_cycle_req => .dutyCycleReq
  | .rx_param_setup_req => .rxParamSetupReq
  | .dev_status_req => .devStatusReq
  | .new_channel_req => .newChannelReq
  | .rx_timing_setup_req _ => .rxTimingSetupReq

@[simp] theorem id_entry (id : CommandId) (payload : Bytes) :
    (id.entry payload).id = id := by
  cases id <;> rfl

theorem map_id_entriesAt (data : Bytes) (idx : Nat) (ids : List CommandId) :
    (entriesAt data idx ids).map MACcmd.id = ids := by
  induction ids generalizing idx with
  | nil => rfl
  | cons id rest ih =>
      rw [entriesAt, List.map_cons, id_entry, ih]

theorem entriesAt_eq_iff (data : Bytes) (idx : Nat) (cmds : List MacCommand) :
    entriesAt data idx (idsOf cmds) = cmds.map MacCommand.report <->
      forall front c back, cmds = front ++ c :: back ->
        c.id.entry ((data.drop (idx + advanceAll (idsOf front) + 1)).take
          c.id.payloadLength) = c.report := by
  induction cmds generalizing idx with
  | nil =>
      constructor
      · intro _ front c back h
        cases front <;> cases h
      · intro _
        rfl
  | cons c rest ih =>
      rw [idsOf_cons, entriesAt, List.map_cons]
      constructor
      · intro h front c' back hsplit
        rcases List.cons.inj h with ⟨hhead, htail⟩
        cases front with
        | nil =>
            cases hsplit
            exact hhead
        | cons a front =>
            rw [List.cons_append] at hsplit
            cases hsplit
            have hrest := (ih (idx + c.id.advance)).mp htail front c' back rfl
            rw [idsOf_cons, advanceAll_cons, ← Nat.add_assoc idx]
            exact hrest
      · intro h
        have hhead : c.id.entry ((data.drop (idx + 1)).take
            c.id.payloadLength) = c.report := h [] c rest rfl
        have htail : entriesAt data (idx + c.id.advance) (idsOf rest) =
            rest.map MacCommand.report := by
          apply (ih (idx + c.id.advance)).mpr
          intro front c' back hsplit
          have hrest := h (c :: front) c' back (by rw [hsplit]; rfl)
          rw [idsOf_cons, advanceAll_cons, ← Nat.add_assoc idx] at hrest
          exact hrest
        rw [hhead, htail]

theorem meets_idsOf_iff (data : Bytes) (cmds : List MacCommand) :
    Meets data 0 (idsOf cmds) <->
      forall front c back, cmds = front ++ c :: back ->
        data[advanceAll (idsOf front)]? = some c.id.byte := by
  constructor
  · intro h front c back hsplit
    have hmeets := h (idsOf front) c.id (idsOf back) (by
      rw [hsplit, idsOf, List.map_append]
      rfl)
    rw [Nat.zero_add] at hmeets
    exact hmeets
  · intro h front id back hsplit
    rcases List.map_eq_append_iff.mp hsplit with ⟨cmds₁, cmds₂, rfl, rfl, hback⟩
    rcases List.map_eq_cons_iff.mp hback with ⟨c, rest, rfl, rfl, rfl⟩
    rw [Nat.zero_add]
    exact h cmds₁ c rest rfl

theorem looksAlikeBehind_iff (cmds : List MacCommand) :
    LooksAlikeBehind cmds <->
      Meets (encodeAll cmds) 0 (idsOf cmds) ∧
        entriesAt (encodeAll cmds) 0 (idsOf cmds) =
          cmds.map MacCommand.report := by
  rw [meets_idsOf_iff, entriesAt_eq_iff]
  simp only [advanceAll_idsOf, Nat.zero_add]
  constructor
  · intro h
    exact ⟨fun front c back hsplit => (h front c back hsplit).1,
      fun front c back hsplit => (h front c back hsplit).2⟩
  · intro h front c back hsplit
    exact ⟨h.1 front c back hsplit, h.2 front c back hsplit⟩

theorem runsOut_idsOf {cmds : List MacCommand}
    (hmeets : Meets (encodeAll cmds) 0 (idsOf cmds)) :
    RunsOut (encodeAll cmds) (idsOf cmds) where
  meets := hmeets
  before := by
    intro front id back hsplit
    rw [length_encodeAll, hsplit, countAll_append, countAll_cons]
    lia
  counted := Nat.le_of_eq (length_encodeAll cmds)

/-- A list of commands is decoded as it should exactly when every command looks
alike that far in front of it. -/
theorem decodesAll_iff_looksAlikeBehind (cmds : List MacCommand) :
    DecodesAll cmds <-> LooksAlikeBehind cmds := by
  rw [looksAlikeBehind_iff]
  constructor
  · intro h
    rcases h with ⟨r, hdecode, herror, hmac⟩
    rcases stopsAtUnknown_or_runsOut (encodeAll cmds) with
      ⟨ids, hstops⟩ | ⟨ids, hruns⟩
    · rw [foptsDecode_of_stopsAtUnknown hstops] at hdecode
      cases hdecode
      cases herror
    · rw [foptsDecode_of_runsOut hruns] at hdecode
      cases hdecode
      have hids : ids = idsOf cmds := by
        have hkinds := congrArg (List.map MACcmd.id) hmac
        rw [map_id_entriesAt, List.map_map] at hkinds
        rw [hkinds, idsOf]
        apply List.map_congr_left
        intro c _
        exact id_entry c.id c.payload
      rw [hids] at hruns hmac
      exact ⟨hruns.meets, hmac⟩
  · intro h
    exact ⟨_, foptsDecode_of_runsOut (runsOut_idsOf h.1), rfl, h.2⟩

/-- Where no command follows an `rx_timing_setup_req`, the decoder is right. -/
theorem looksAlikeBehind_of_lag_zero {cmds : List MacCommand}
    (h : forall front c back, cmds = front ++ c :: back -> lag front = 0) :
    LooksAlikeBehind cmds := by
  intro front c back hsplit
  have hdata : encodeAll cmds =
      encodeAll front ++ c.id.byte :: (c.payload ++ encodeAll back) := by
    rw [hsplit, encodeAll_append, encodeAll_cons]
    rfl
  have hpayload : (c.payload ++ encodeAll back).take c.id.payloadLength =
      c.payload := by
    rw [← c.length_eq, List.take_left]
  rw [h front c back hsplit, Nat.sub_zero, hdata]
  constructor
  · rw [List.getElem?_append_right (Nat.le_refl _), Nat.sub_self]
    rfl
  · rw [← List.drop_drop, List.drop_left, List.drop_succ_cons, List.drop_zero,
      hpayload]
    rfl

def timingThenCheck : List MacCommand :=
  [⟨.rxTimingSetupReq, [5], rfl⟩, ⟨.linkCheckReq, [], rfl⟩]

theorem command_after_timing_misread :
    foptsDecode (encodeAll timingThenCheck) =
        .ok { error := false
              MAC := [.rx_timing_setup_req 5, .rx_param_setup_req]
              readEnds := [2, 2] } ∧
      ¬ DecodesAll timingThenCheck := by
  have hruns : RunsOut (encodeAll timingThenCheck)
      ([.rxTimingSetupReq] ++ [.rxParamSetupReq]) := by
    apply RunsOut.of_concat
    · apply meets_cons_iff.mpr
      constructor
      · rfl
      · exact meets_cons_iff.mpr ⟨rfl, meets_nil _ _⟩
    · decide
    · decide
  have hdecode := foptsDecode_of_runsOut hruns
  refine ⟨hdecode, ?_⟩
  intro h
  rcases h with ⟨r, hdecode', _, hmac⟩
  rw [hdecode] at hdecode'
  cases hdecode'
  exact absurd hmac (by decide)

/-!
## Rejecting everything else
-/

def IsCommandList (data : Bytes) : Prop :=
  exists cmds, data = encodeAll cmds

/-- Bytes that are no list of commands are decoded with an error, and nothing
behind their end is read for a command that is reported. -/
def RejectsTheRest (data : Bytes) : Prop :=
  ¬ IsCommandList data ->
    exists r, foptsDecode data = .ok r ∧ r.error = true ∧
      forall i, i ∈ r.readEnds -> i ≤ data.length

theorem CommandId.looksAt_le (id : CommandId) :
    id.looksAt ≤ id.payloadLength := by
  cases id <;> decide

theorem le_of_mem_endsAt {idx i : Nat} {ids : List CommandId}
    (hi : i ∈ endsAt idx ids) : i ≤ idx + countAll ids := by
  induction ids generalizing idx with
  | nil => cases hi
  | cons id rest ih =>
      have hlooks := id.looksAt_le
      have hadvance := id.advance_add
      rw [countAll_cons]
      rcases List.mem_cons.mp hi with rfl | hi
      · lia
      · have hle := ih hi
        lia

/-!
## Where the commands end
-/

def BeginsUnknown (rest : Bytes) : Prop :=
  exists b tail, rest = b :: tail ∧ forall id : CommandId, b ≠ id.byte

def CutShort (rest : Bytes) : Prop :=
  exists (id : CommandId) (payload : Bytes), rest = id.byte :: payload ∧
    payload.length < id.payloadLength

/-- What is behind the last complete command. -/
def CommandsEnd (rest : Bytes) : Prop :=
  rest = [] ∨ BeginsUnknown rest ∨ CutShort rest

theorem exists_encodeAll_append (data : Bytes) :
    exists cmds rest, data = encodeAll cmds ++ rest ∧ CommandsEnd rest := by
  induction hn : data.length using Nat.strongRecOn generalizing data with
  | ind n ih =>
      cases data with
      | nil => exact ⟨[], [], rfl, .inl rfl⟩
      | cons b tail =>
          by_cases hknown : exists id : CommandId, b = id.byte
          · rcases hknown with ⟨id, rfl⟩
            by_cases hshort : tail.length < id.payloadLength
            · exact ⟨[], _, rfl, .inr (.inr ⟨id, tail, rfl, hshort⟩)⟩
            · have hlength : (tail.take id.payloadLength).length =
                  id.payloadLength := List.length_take_of_le (by lia)
              have hlt : (tail.drop id.payloadLength).length < n := by
                rw [List.length_drop]
                rw [List.length_cons] at hn
                lia
              rcases ih _ hlt (tail.drop id.payloadLength) rfl with
                ⟨cmds, rest, hrest, hend⟩
              refine ⟨⟨id, _, hlength⟩ :: cmds, rest, ?_, hend⟩
              rw [encodeAll_cons, List.append_assoc, ← hrest,
                MacCommand.encode, List.cons_append, List.take_append_drop]
          · refine ⟨[], _, rfl, .inr (.inl ⟨b, tail, rfl, ?_⟩)⟩
            exact fun id hid => hknown ⟨id, hid⟩

theorem CommandId.byte_inj {id id' : CommandId} (h : id.byte = id'.byte) :
    id = id' := by
  revert h
  cases id <;> cases id' <;> decide

theorem exists_encodeAll_of_append {cmds all : List MacCommand} {rest : Bytes}
    (h : encodeAll cmds ++ rest = encodeAll all) :
    exists others, rest = encodeAll others := by
  induction cmds generalizing all with
  | nil => exact ⟨all, h⟩
  | cons c cmds ih =>
      cases all with
      | nil => cases h
      | cons c' all =>
          rw [encodeAll_cons, encodeAll_cons, List.append_assoc] at h
          -- the lengths of the two payloads follow from the same id
          rcases List.cons.inj h with ⟨hbyte, htail⟩
          have hlength : c.payload.length = c'.payload.length := by
            rw [c.length_eq, c'.length_eq, CommandId.byte_inj hbyte]
          exact ih (List.append_inj htail hlength).2

theorem not_isCommandList_of_cutShort {cmds : List MacCommand} {rest : Bytes}
    (hcut : CutShort rest) : ¬ IsCommandList (encodeAll cmds ++ rest) := by
  intro h
  rcases h with ⟨all, hall⟩
  rcases exists_encodeAll_of_append hall with ⟨others, hothers⟩
  rcases hcut with ⟨id, payload, rfl, hshort⟩
  cases others with
  | nil => cases hothers
  | cons c others =>
      rw [encodeAll_cons, MacCommand.encode, List.cons_append] at hothers
      rcases List.cons.inj hothers with ⟨hbyte, hpayload⟩
      rw [hpayload, List.length_append, c.length_eq,
        CommandId.byte_inj hbyte] at hshort
      lia

/-!
## The commands as the index steps over them

The index passes an `rx_timing_setup_req` with its id only, so the next command
is looked for where the byte of the delay is.
-/

/-- The bytes of a command that the index passes. -/
def MacCommand.stepped (c : MacCommand) : Bytes :=
  if c.id = .rxTimingSetupReq then [c.id.byte] else c.encode

def steppedAll (cmds : List MacCommand) : Bytes :=
  cmds.flatMap MacCommand.stepped

/-- Commands as the index passes them, then a byte that is no id, and behind it
at least as many bytes as the index was behind the count. -/
def UnknownBehind (data : Bytes) : Prop :=
  exists cmds rest, data = steppedAll cmds ++ rest ∧ BeginsUnknown rest ∧
    lag cmds < rest.length

theorem steppedAll_cons (c : MacCommand) (rest : List MacCommand) :
    steppedAll (c :: rest) = c.stepped ++ steppedAll rest :=
  List.flatMap_cons

theorem MacCommand.stepped_eq_cons (c : MacCommand) :
    exists tail, c.stepped = c.id.byte :: tail := by
  unfold MacCommand.stepped
  split
  · exact ⟨[], rfl⟩
  · exact ⟨c.payload, rfl⟩

theorem MacCommand.length_stepped (c : MacCommand) :
    c.stepped.length = c.id.advance := by
  have hadvance := c.id.advance_add
  unfold MacCommand.stepped
  split
  · rename_i htiming
    rw [htiming]
    rfl
  · rename_i hother
    rw [MacCommand.encode, List.length_cons, c.length_eq]
    simp only [beq_iff_eq, hother, if_false] at hadvance
    lia

theorem length_steppedAll (cmds : List MacCommand) :
    (steppedAll cmds).length = advanceAll (idsOf cmds) := by
  induction cmds with
  | nil => rfl
  | cons c rest ih =>
      rw [steppedAll_cons, List.length_append, c.length_stepped, ih, idsOf_cons,
        advanceAll_cons]

theorem countAll_idsOf (cmds : List MacCommand) :
    countAll (idsOf cmds) = (steppedAll cmds).length + lag cmds := by
  rw [length_steppedAll, advanceAll_add_lag]

theorem steppedAll_of_lag_zero {cmds : List MacCommand} (h : lag cmds = 0) :
    steppedAll cmds = encodeAll cmds := by
  induction cmds with
  | nil => rfl
  | cons c rest ih =>
      rw [lag, List.countP_cons, Nat.add_eq_zero_iff] at h
      have hother : c.id ≠ .rxTimingSetupReq := by
        intro htiming
        simp [htiming] at h
      rw [steppedAll_cons, encodeAll_cons, ih h.1, MacCommand.stepped,
        if_neg hother]

theorem meets_steppedAll (cmds : List MacCommand) (rest : Bytes) :
    Meets (steppedAll cmds ++ rest) 0 (idsOf cmds) := by
  rw [meets_idsOf_iff]
  intro front c back hsplit
  rcases c.stepped_eq_cons with ⟨tail, hc⟩
  have hdata : steppedAll cmds ++ rest = steppedAll front ++
      c.id.byte :: (tail ++ steppedAll back ++ rest) := by
    rw [hsplit, steppedAll, List.flatMap_append, List.flatMap_cons, hc]
    simp [steppedAll]
  rw [hdata, ← length_steppedAll,
    List.getElem?_append_right (Nat.le_refl _), Nat.sub_self]
  rfl

theorem stopsAtUnknown_steppedAll {cmds : List MacCommand} {rest : Bytes}
    (hunknown : BeginsUnknown rest) (hlag : lag cmds < rest.length) :
    StopsAtUnknown (steppedAll cmds ++ rest) (idsOf cmds) where
  meets := meets_steppedAll cmds rest
  counted := by
    rw [countAll_idsOf, List.length_append]
    lia
  unknown := by
    rcases hunknown with ⟨b, tail, rfl, hne⟩
    intro id hid
    rw [← length_steppedAll, List.getElem?_append_right (Nat.le_refl _),
      Nat.sub_self, List.getElem?_cons_zero, Option.some.injEq] at hid
    exact hne id hid

theorem meets_drop_iff {data : Bytes} {idx : Nat} {ids : List CommandId} :
    Meets (data.drop idx) 0 ids <-> Meets data idx ids := by
  unfold Meets
  simp only [List.getElem?_drop, Nat.zero_add]

theorem exists_stepped {data : Bytes} {id : CommandId}
    (hid : data[0]? = some id.byte) (hlength : id.advance ≤ data.length) :
    exists c : MacCommand, c.id = id ∧
      data = c.stepped ++ data.drop id.advance := by
  cases data with
  | nil => cases hid
  | cons b tail =>
      cases hid
      by_cases htiming : id = .rxTimingSetupReq
      · subst htiming
        exact ⟨⟨.rxTimingSetupReq, [0], rfl⟩, rfl, rfl⟩
      · have hadvance := id.advance_add
        simp only [beq_iff_eq, htiming, if_false] at hadvance
        rw [List.length_cons] at hlength
        refine ⟨⟨id, tail.take id.payloadLength,
          List.length_take_of_le (by lia)⟩, rfl, ?_⟩
        have hsucc : id.advance = id.payloadLength + 1 := by lia
        rw [MacCommand.stepped, if_neg htiming, MacCommand.encode, hsucc,
          List.drop_succ_cons, List.cons_append, List.take_append_drop]

theorem exists_steppedAll {data : Bytes} {ids : List CommandId}
    (hmeets : Meets data 0 ids) (hlength : advanceAll ids ≤ data.length) :
    exists cmds rest, idsOf cmds = ids ∧ data = steppedAll cmds ++ rest := by
  induction ids generalizing data with
  | nil => exact ⟨[], data, rfl, rfl⟩
  | cons id ids ih =>
      rcases meets_cons_iff.mp hmeets with ⟨hid, hrest⟩
      rw [Nat.zero_add, ← meets_drop_iff] at hrest
      rw [advanceAll_cons] at hlength
      rcases exists_stepped hid (by lia) with ⟨c, rfl, hdata⟩
      have hdrop : advanceAll ids ≤ (data.drop c.id.advance).length := by
        rw [List.length_drop]
        lia
      rcases ih hrest hdrop with ⟨cmds, rest, rfl, hsplit⟩
      refine ⟨c :: cmds, rest, rfl, ?_⟩
      rw [steppedAll_cons, List.append_assoc, ← hsplit]
      exact hdata

/-- The walk comes to an unknown id where one stands behind commands as the
index passes them. -/
theorem exists_stopsAtUnknown_iff (data : Bytes) :
    (exists ids, StopsAtUnknown data ids) <-> UnknownBehind data := by
  constructor
  · intro h
    rcases h with ⟨ids, hstops⟩
    have hcounted := hstops.counted
    rcases exists_steppedAll hstops.meets
        (Nat.le_of_lt (Nat.lt_of_le_of_lt (advanceAll_le_countAll ids)
          hcounted)) with ⟨cmds, rest, rfl, rfl⟩
    rw [countAll_idsOf, List.length_append] at hcounted
    refine ⟨cmds, rest, rfl, ?_, by lia⟩
    have hunknown := hstops.unknown
    rw [← length_steppedAll] at hunknown
    cases rest with
    | nil =>
        rw [List.length_nil] at hcounted
        lia
    | cons b tail =>
        refine ⟨b, tail, rfl, ?_⟩
        intro id hid
        apply hunknown id
        rw [List.getElem?_append_right (Nat.le_refl _), Nat.sub_self,
          List.getElem?_cons_zero, hid]
  · intro h
    rcases h with ⟨cmds, rest, rfl, hunknown, hlag⟩
    exact ⟨_, stopsAtUnknown_steppedAll hunknown hlag⟩

/-!
## The exact condition
-/

theorem rejectsTheRest_iff_unknownBehind (data : Bytes) :
    RejectsTheRest data <-> IsCommandList data ∨ UnknownBehind data := by
  rw [← exists_stopsAtUnknown_iff]
  constructor
  · intro h
    by_cases hlist : IsCommandList data
    · exact Or.inl hlist
    · right
      rcases h hlist with ⟨r, hdecode, herror, _⟩
      rcases stopsAtUnknown_or_runsOut data with hstops | ⟨ids, hruns⟩
      · exact hstops
      · rw [foptsDecode_of_runsOut hruns] at hdecode
        cases hdecode
        cases herror
  · intro h hlist
    rcases h with hlist' | ⟨ids, hstops⟩
    · exact absurd hlist' hlist
    · refine ⟨_, foptsDecode_of_stopsAtUnknown hstops, rfl, ?_⟩
      intro i hi
      have hle := le_of_mem_endsAt hi
      have hcounted := hstops.counted
      lia

/-- A command that is cut short is counted as a whole, and the count runs
out. -/
theorem runsOut_of_cutShort {cmds : List MacCommand} {id : CommandId}
    {payload : Bytes} (hlag : lag cmds = 0)
    (hshort : payload.length < id.payloadLength) :
    RunsOut (encodeAll cmds ++ id.byte :: payload) (idsOf cmds ++ [id]) := by
  have hcount := countAll_idsOf cmds
  rw [← steppedAll_of_lag_zero hlag]
  apply RunsOut.of_concat
  · apply meets_concat (meets_steppedAll cmds _)
    rw [Nat.zero_add, ← length_steppedAll,
      List.getElem?_append_right (Nat.le_refl _), Nat.sub_self]
    rfl
  · rw [List.length_append, List.length_cons]
    lia
  · rw [List.length_append, List.length_cons, countAll_append, countAll_cons]
    lia

theorem rejectsTheRest_iff_not_cutShort {cmds : List MacCommand} {rest : Bytes}
    (hend : CommandsEnd rest) (hlag : lag cmds = 0) :
    RejectsTheRest (encodeAll cmds ++ rest) <-> ¬ CutShort rest := by
  constructor
  · intro h hcut
    rcases h (not_isCommandList_of_cutShort hcut) with ⟨r, hdecode, herror, _⟩
    rcases hcut with ⟨id, payload, rfl, hshort⟩
    rw [foptsDecode_of_runsOut (runsOut_of_cutShort hlag hshort)] at hdecode
    cases hdecode
    cases herror
  · intro hcut
    rw [rejectsTheRest_iff_unknownBehind]
    rcases hend with rfl | hunknown | hcut'
    · exact .inl ⟨cmds, List.append_nil _⟩
    · refine .inr ⟨cmds, rest, ?_, hunknown, ?_⟩
      · rw [steppedAll_of_lag_zero hlag]
      · rcases hunknown with ⟨b, tail, rfl, _⟩
        rw [hlag, List.length_cons]
        exact Nat.succ_pos _
    · exact absurd hcut' hcut

/-- Bytes that are no list of commands are rejected exactly when an unknown id
is met that early.  Every string of bytes is a list of commands up to its end,
and without an `rx_timing_setup_req` among them it is rejected exactly when what
follows is not a command that is cut short. -/
theorem rejectsTheRest_iff (data : Bytes) :
    (RejectsTheRest data <-> IsCommandList data ∨ UnknownBehind data) ∧
      (exists cmds rest, data = encodeAll cmds ++ rest ∧ CommandsEnd rest) ∧
      forall cmds rest, data = encodeAll cmds ++ rest -> CommandsEnd rest ->
        lag cmds = 0 -> (RejectsTheRest data <-> ¬ CutShort rest) := by
  refine ⟨rejectsTheRest_iff_unknownBehind data, exists_encodeAll_append data,
    ?_⟩
  intro cmds rest hdata hend hlag
  rw [hdata]
  exact rejectsTheRest_iff_not_cutShort hend hlag

theorem not_isCommandList_cut : ¬ IsCommandList [0x03] :=
  @not_isCommandList_of_cutShort [] _ ⟨.linkAdrReq, [], rfl, by decide⟩

/-- A `link_adr_req` without its bytes is reported, and no error. -/
theorem cut_command_accepted :
    foptsDecode [0x03] =
        .ok { error := false, MAC := [.link_adr_req 0 0 0 0 0]
              readEnds := [5] } ∧
      ¬ RejectsTheRest [0x03] := by
  have hruns : RunsOut [0x03] ([] ++ [.linkAdrReq]) := by
    apply RunsOut.of_concat
    · exact meets_cons_iff.mpr ⟨rfl, meets_nil _ _⟩
    · decide
    · decide
  have hdecode := foptsDecode_of_runsOut hruns
  refine ⟨hdecode, ?_⟩
  intro h
  rcases h not_isCommandList_cut with ⟨r, hdecode', herror, _⟩
  rw [hdecode] at hdecode'
  cases hdecode'
  cases herror

end LoRaWan
end Fluxnode
