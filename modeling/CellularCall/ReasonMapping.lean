import CellularCall.Ipc.ImsCallback
import CellularCall.Lib.Loop
import CellularCall.Settings

/-!
# The reasons of ended IMS calls

An operator can have the reason of an ended IMS call replaced: an entry of its
list is `reason|message` or `reason|message|newReason`.
`LastCallFailReasonResponse` looks for the first entry of the reported reason,
takes the entry apart with `strtok_r`, and hands the details on.

`strtok_r` skips empty fields, so that the fields behind one move up.  The
fields an entry is read as are those that are not empty
(`readReasonInfo_text`).  `mappedByPosition_iff` says for which lists this comes
to the same as reading the fields by their position.
-/

namespace CellularCall

open Lib

/-- `strtok_r` at `|`: the next token, and what is left behind it. -/
def strtok (s : Str) : Option (Str × Str) :=
  let token := s.dropWhile (· == '|')
  if token = [] then none
  else some (token.takeWhile (· != '|'), (token.dropWhile (· != '|')).drop 1)

/-- The variables of the loop over an entry's tokens. -/
structure TokenState where
  p : Str
  detailsInfo : DisconnectedDetails
  flag : Bool
deriving DecidableEq, Repr

/-- One round of the loop: the first token is the message, a further one the
reason. -/
def tokenRound (tmpReason : Int) (st : TokenState) : Option TokenState :=
  if tmpReason = st.detailsInfo.reason then
    match strtok st.p with
    | none => none
    | some (ptr, p) =>
      if st.flag then some ⟨p, { st.detailsInfo with reason := atoi ptr }, true⟩
      else some ⟨p, { st.detailsInfo with message := ptr }, true⟩
  else none

/-- What an entry does to the details, and whether the search stops at it.  It is
`none` where the loop does not end within as many rounds as there are characters. -/
def readReasonInfo (reasonInfo : Str) (detailsInfo : DisconnectedDetails) :
    Option (DisconnectedDetails × Bool) :=
  match strtok (cStr reasonInfo) with
  | none => some (detailsInfo, false)
  | some (ptr, p) =>
    (Loop.run (tokenRound (atoi ptr)) (p.length + 1) ⟨p, detailsInfo, false⟩).map fun st =>
      (st.detailsInfo, st.flag)

/-- The loop over the entries, from the one at `i` on: the details, and the entry
at which the search stops. -/
def searchReasonInfo (i : Nat) (detailsInfo : DisconnectedDetails) :
    List Str → Option (DisconnectedDetails × Option Nat)
  | [] => some (detailsInfo, none)
  | reasonInfo :: vecReasonInfo =>
    (readReasonInfo reasonInfo detailsInfo).bind fun (detailsInfo, flag) =>
      if flag then some (detailsInfo, some i)
      else searchReasonInfo (i + 1) detailsInfo vecReasonInfo

/-- `GetImsCallDisconnectResoninfoMappingConfig`. -/
def getImsCallDisconnectResoninfoMappingConfig (K : ConfigConstants)
    (imsCallDisconnectResoninfoMapping : Int → List Str) (slotId : Int) : List Str :=
  if CellularCallConfig.isValidSlotId K slotId then imsCallDisconnectResoninfoMapping slotId
  else []

/-- Whether the slot has a handler, and whether it takes the event. -/
structure HandlerEnv where
  handler : Bool
  sendTelEvent : Bool
deriving DecidableEq, Repr

/-- What a response comes to: the details sent to the handler, and the entry they
are from. -/
structure FailReasonAnswer where
  ret : RetCode
  sent : Option DisconnectedDetails
  entry : Option Nat
deriving DecidableEq, Repr

/-- `LastCallFailReasonResponse`. -/
def lastCallFailReasonResponse (K : ConfigConstants) (mapping : Int → List Str) (env : HandlerEnv)
    (slotId : Int) (details : DisconnectedDetails) : Option FailReasonAnswer :=
  if env.handler then
    (searchReasonInfo 0 details
      (getImsCallDisconnectResoninfoMappingConfig K mapping slotId)).map fun (sent, entry) =>
        ⟨if env.sendTelEvent then .success else .errFail, some sent, entry⟩
  else some ⟨.errLocalPtrNull, none, none⟩

/-! ## Tokens -/

/-- Fields in one string. -/
def joinFields (fields : List Str) : Str := ['|'].intercalate fields

/-- The fields that are not empty. -/
def tokensOf (fields : List Str) : List Str := fields.filter (· ≠ [])

/-- The loop over an entry's tokens, on the tokens. -/
def readTokens (tmpReason : Int) (detailsInfo : DisconnectedDetails) (flag : Bool) :
    List Str → DisconnectedDetails × Bool
  | [] => (detailsInfo, flag)
  | ptr :: tokens =>
    if tmpReason = detailsInfo.reason then
      readTokens tmpReason
        (if flag then { detailsInfo with reason := atoi ptr }
          else { detailsInfo with message := ptr }) true tokens
    else (detailsInfo, flag)

/-- What the tokens of an entry do to the details, and whether the search stops. -/
def readByToken (detailsInfo : DisconnectedDetails) : List Str → DisconnectedDetails × Bool
  | [] => (detailsInfo, false)
  | ptr :: tokens => readTokens (atoi ptr) detailsInfo false tokens

section
variable {s ptr p : Str} {f : Str} {fields tokens : List Str}

theorem strtok_separator (s : Str) : strtok ('|' :: s) = strtok s := by
  simp only [strtok, List.dropWhile_cons_of_pos, beq_self_eq_true]

/-- Each token makes the string shorter. -/
theorem length_lt_of_strtok (h : strtok s = some (ptr, p)) : p.length < s.length := by
  have hskip : (s.dropWhile (· == '|')).length ≤ s.length := List.length_dropWhile_le _ _
  have hrest : ((s.dropWhile (· == '|')).dropWhile (· != '|')).length ≤
      (s.dropWhile (· == '|')).length := List.length_dropWhile_le _ _
  simp only [strtok] at h
  split at h
  · cases h
  · rename_i htoken
    have hpos : 0 < (s.dropWhile (· == '|')).length := List.length_pos_iff.mpr htoken
    rw [← (Prod.mk.inj (Option.some.inj h)).2, List.length_drop]
    omega

/-- A field that is not empty is the token. -/
theorem strtok_field (hf : f ≠ []) (hfree : '|' ∉ f) (rest : Str) :
    strtok (f ++ '|' :: rest) = some (f, rest) ∧ strtok f = some (f, []) := by
  have hall : ∀ c ∈ f, (c != '|') = true := by
    intro c hc
    rw [bne_iff_ne]
    intro heq
    exact hfree (heq ▸ hc)
  have hskip : ∀ r, (f ++ r).dropWhile (· == '|') = f ++ r := by
    intro r
    cases f with
    | nil => exact absurd rfl hf
    | cons c cs =>
      rw [List.cons_append, List.dropWhile_cons_of_neg]
      simpa using hall c List.mem_cons_self
  have hskip_nil := hskip []
  rw [List.append_nil] at hskip_nil
  constructor
  · simp only [strtok, hskip, List.append_eq_nil_iff, hf, false_and, if_false]
    rw [@List.takeWhile_append_of_pos _ (· != '|') _ _ hall,
      @List.dropWhile_append_of_pos _ (· != '|') _ _ hall]
    simp
  · simp only [strtok, hskip_nil, hf, if_false]
    rw [List.takeWhile_eq_self_iff.mpr hall, List.dropWhile_eq_nil_iff.mpr hall]
    rfl

theorem joinFields_cons (f : Str) (hfields : fields ≠ []) :
    joinFields (f :: fields) = f ++ '|' :: joinFields fields := by
  rw [joinFields, List.intercalate_cons_of_ne_nil hfields, List.append_assoc]
  rfl

/-- The next token is the next field that is not empty. -/
theorem strtok_joinFields (hfree : ∀ f ∈ fields, '|' ∉ f) :
    (tokensOf fields = [] → strtok (joinFields fields) = none) ∧
      ∀ ptr tokens, tokensOf fields = ptr :: tokens →
        ∃ rest, strtok (joinFields fields) = some (ptr, joinFields rest) ∧
          tokensOf rest = tokens ∧ ∀ f ∈ rest, '|' ∉ f := by
  induction fields with
  | nil => exact ⟨fun _ => rfl, fun _ _ h => nomatch h⟩
  | cons f fields ih =>
    have hrest : ∀ f ∈ fields, '|' ∉ f := fun g hg => hfree g (List.mem_cons_of_mem f hg)
    by_cases hf : f = []
    · -- an empty field is skipped
      subst hf
      have htokens : tokensOf ([] :: fields) = tokensOf fields := rfl
      have hskip : strtok (joinFields ([] :: fields)) = strtok (joinFields fields) := by
        by_cases hfields : fields = []
        · subst hfields; rfl
        · rw [joinFields_cons [] hfields, List.nil_append, strtok_separator]
      rw [htokens, hskip]
      exact ih hrest
    · have htokens : tokensOf (f :: fields) = f :: tokensOf fields := by
        rw [tokensOf, List.filter_cons_of_pos (by simpa using hf), tokensOf]
      rw [htokens]
      refine ⟨(fun h => nomatch h), ?_⟩
      intro ptr tokens heq
      obtain ⟨rfl, rfl⟩ := List.cons.inj heq
      refine ⟨fields, ?_, rfl, hrest⟩
      have hfield := strtok_field hf (hfree f List.mem_cons_self) (joinFields fields)
      by_cases hfields : fields = []
      · subst hfields
        rw [show joinFields [f] = f from List.intercalate_singleton]
        exact hfield.2
      · rw [joinFields_cons f hfields]
        exact hfield.1

/-- The loop over the string of the fields is the one over the tokens. -/
theorem run_tokenRound (tmpReason : Int) (hfree : ∀ f ∈ fields, '|' ∉ f) {fuel : Nat}
    (hfuel : (joinFields fields).length < fuel) (detailsInfo : DisconnectedDetails)
    (flag : Bool) :
    (Loop.run (tokenRound tmpReason) fuel ⟨joinFields fields, detailsInfo, flag⟩).map
        (fun st => (st.detailsInfo, st.flag)) =
      some (readTokens tmpReason detailsInfo flag (tokensOf fields)) := by
  induction htokens : tokensOf fields generalizing fields fuel detailsInfo flag with
  | nil =>
    obtain ⟨fuel, rfl⟩ : ∃ n, fuel = n + 1 := ⟨fuel - 1, by omega⟩
    have hround : tokenRound tmpReason ⟨joinFields fields, detailsInfo, flag⟩ = none := by
      simp only [tokenRound, (strtok_joinFields hfree).1 htokens, ite_self]
    rw [Loop.run_of_none hround]
    rfl
  | cons ptr tokens ih =>
    obtain ⟨fuel, rfl⟩ : ∃ n, fuel = n + 1 := ⟨fuel - 1, by omega⟩
    obtain ⟨rest, hstrtok, hrest, hrestFree⟩ := (strtok_joinFields hfree).2 ptr tokens htokens
    have hshorter := length_lt_of_strtok hstrtok
    by_cases hreason : tmpReason = detailsInfo.reason
    · have hround : tokenRound tmpReason ⟨joinFields fields, detailsInfo, flag⟩ =
          some ⟨joinFields rest, if flag then { detailsInfo with reason := atoi ptr }
            else { detailsInfo with message := ptr }, true⟩ := by
        simp only [tokenRound, if_pos hreason, hstrtok]
        cases flag <;> rfl
      rw [Loop.run_of_some hround, ih hrestFree (by omega) _ _ hrest, readTokens, if_pos hreason]
    · have hround : tokenRound tmpReason ⟨joinFields fields, detailsInfo, flag⟩ = none := by
        simp only [tokenRound, if_neg hreason]
      rw [Loop.run_of_none hround, readTokens, if_neg hreason]
      rfl

theorem nul_not_mem_joinFields (hnul : ∀ f ∈ fields, '\x00' ∉ f) :
    '\x00' ∉ joinFields fields := by
  induction fields with
  | nil => exact List.not_mem_nil
  | cons f fields ih =>
    have hf := hnul f List.mem_cons_self
    by_cases hfields : fields = []
    · subst hfields
      rwa [show joinFields [f] = f from List.intercalate_singleton]
    · have hrest := ih fun g hg => hnul g (List.mem_cons_of_mem f hg)
      rw [joinFields_cons f hfields]
      simp [hf, hrest]

/-- An entry is read by its tokens. -/
theorem readReasonInfo_joinFields (hfree : ∀ f ∈ fields, '|' ∉ f ∧ '\x00' ∉ f)
    (detailsInfo : DisconnectedDetails) :
    readReasonInfo (joinFields fields) detailsInfo =
      some (readByToken detailsInfo (tokensOf fields)) := by
  have hnul : ∀ f ∈ fields, '\x00' ∉ f := fun f hf => (hfree f hf).2
  replace hfree : ∀ f ∈ fields, '|' ∉ f := fun f hf => (hfree f hf).1
  rw [readReasonInfo, cStr_eq_self (nul_not_mem_joinFields hnul)]
  cases htokens : tokensOf fields with
  | nil => rw [(strtok_joinFields hfree).1 htokens]; rfl
  | cons ptr tokens =>
    obtain ⟨rest, hstrtok, hrest, hrestFree⟩ := (strtok_joinFields hfree).2 ptr tokens htokens
    rw [hstrtok, readByToken, ← hrest]
    exact run_tokenRound (atoi ptr) hrestFree (Nat.lt_succ_self _) detailsInfo false

end

/-! ## Entries -/

/-- An entry of the list: the fields behind the reason may be missing. -/
structure MappingEntry where
  reason : Str
  rest : Option (Str × Option Str)
  clean : ∀ f ∈ reason :: rest.elim [] (fun rest => rest.1 :: rest.2.toList),
    '|' ∉ f ∧ '\x00' ∉ f

namespace MappingEntry

/-- The fields of an entry. -/
def fields (e : MappingEntry) : List Str :=
  e.reason :: e.rest.elim [] fun rest => rest.1 :: rest.2.toList

/-- An entry as it stands in the list. -/
def text (e : MappingEntry) : Str := joinFields e.fields

/-- What the fields of an entry do to the details, and whether the search stops
at it: the entry is for the reason in its first field, the message is its second,
and the new reason its third. -/
def readByPosition (detailsInfo : DisconnectedDetails) (e : MappingEntry) :
    DisconnectedDetails × Bool :=
  match e.rest with
  | none => (detailsInfo, false)
  | some (message, newReason) =>
    if atoi e.reason = detailsInfo.reason then
      (⟨(newReason.map atoi).getD detailsInfo.reason, message⟩, true)
    else (detailsInfo, false)

/-- The entry is for the reason, by its fields or by its tokens: where the first
field is empty, the second is read in its place. -/
def concerns (reason : Int) (e : MappingEntry) : Bool :=
  match e.rest with
  | none => false
  | some (message, newReason) =>
    decide (atoi e.reason = reason ∨
      e.reason = [] ∧ atoi message = reason ∧ message ≠ [] ∧ newReason.getD [] ≠ [])

/-- The tokens of the entry are its fields in their places: the first two fields
are not empty, nor is the third, but for the reason 0, as which an empty field is
read too.  An entry whose first field is empty has its message in place by chance
only. -/
def InPlace (reason : Int) (e : MappingEntry) : Prop :=
  match e.rest with
  | none => True
  | some (message, newReason) =>
    message ≠ [] ∧
      ((e.reason ≠ [] ∧ (newReason = some [] → reason = 0)) ∨
        (e.reason = [] ∧ reason = 0 ∧ atoi message = 0 ∧ newReason = some message))

/-- The search with entries read by `read`. -/
def search (read : DisconnectedDetails → MappingEntry → DisconnectedDetails × Bool) (i : Nat)
    (detailsInfo : DisconnectedDetails) :
    List MappingEntry → DisconnectedDetails × Option Nat
  | [] => (detailsInfo, none)
  | e :: entries =>
    if (read detailsInfo e).2 then ((read detailsInfo e).1, some i)
    else search read (i + 1) detailsInfo entries

variable (e : MappingEntry) (detailsInfo : DisconnectedDetails)

theorem readReasonInfo_text :
    readReasonInfo e.text detailsInfo = some (readByToken detailsInfo (tokensOf e.fields)) :=
  readReasonInfo_joinFields e.clean detailsInfo

theorem atoi_nil : atoi [] = 0 := rfl

/-- Where the first of three fields is empty, the second is read as the reason and
the third as the message. -/
theorem movedUp_iff (R : Int) (msg message newReason : Str) :
    ((if atoi message = R then ((⟨R, newReason⟩, true) : DisconnectedDetails × Bool)
        else (⟨R, msg⟩, false)) =
      if 0 = R then (⟨atoi newReason, message⟩, true) else (⟨R, msg⟩, false)) ↔
      (0 = R ∨ atoi message = R → R = 0 ∧ atoi message = 0 ∧ newReason = message) := by
  by_cases hzero : 0 = R
  · subst hzero
    by_cases hmessage : atoi message = 0
    · rw [if_pos hmessage, if_pos rfl]
      constructor
      · intro heq _
        exact ⟨rfl, hmessage, congrArg (fun x => x.1.message) heq⟩
      · intro h
        obtain ⟨-, -, hnew⟩ := h (.inl rfl)
        rw [hnew, hmessage]
    · simp [hmessage]
  · by_cases hmessage : atoi message = R
    · rw [if_pos hmessage, if_neg hzero]
      constructor
      · intro heq
        simp at heq
      · intro h
        exact absurd (h (.inr hmessage)).1.symm hzero
    · simp [hzero, hmessage]

/-- The tokens and the fields of an entry say the same if and only if the entry is
not for the reason, or has its fields in place. -/
theorem readByToken_eq_iff :
    readByToken detailsInfo (tokensOf e.fields) = e.readByPosition detailsInfo ↔
      (e.concerns detailsInfo.reason = true → e.InPlace detailsInfo.reason) := by
  obtain ⟨reason, rest, -⟩ := e
  obtain ⟨R, msg⟩ := detailsInfo
  rcases rest with _ | ⟨message, _ | newReason⟩
  · -- no message field
    by_cases hreason : reason = []
    · simp [fields, tokensOf, readByToken, readByPosition, concerns, hreason]
    · simp [fields, tokensOf, readByToken, readTokens, readByPosition, concerns, hreason]
  · -- no third field
    by_cases hreason : reason = [] <;> by_cases hmessage : message = [] <;>
      by_cases hR : atoi reason = R <;>
      simp [fields, tokensOf, readByToken, readTokens, readByPosition, concerns, InPlace,
        hreason, hmessage, hR]
  · by_cases hreason : reason = []
    · by_cases hmoved : message ≠ [] ∧ newReason ≠ []
      · simpa [fields, tokensOf, readByToken, readTokens, readByPosition, concerns, InPlace,
          hreason, hmoved.1, hmoved.2, atoi_nil] using movedUp_iff R msg message newReason
      · by_cases hmessage : message = [] <;> by_cases hnew : newReason = [] <;>
          by_cases hR : atoi [] = R <;>
          simp_all [fields, tokensOf, readByToken, readTokens, readByPosition, concerns, InPlace]
    · by_cases hmessage : message = [] <;> by_cases hnew : newReason = [] <;>
        by_cases hR : atoi reason = R <;>
        simp [fields, tokensOf, readByToken, readTokens, readByPosition, concerns, InPlace,
          hreason, hmessage, hnew, hR, atoi_nil, eq_comm]

/-- By its fields or by its tokens an entry stops the search only if it concerns
the reason. -/
theorem concerns_eq :
    ((readByToken detailsInfo (tokensOf e.fields)).2 || (e.readByPosition detailsInfo).2) =
      e.concerns detailsInfo.reason := by
  obtain ⟨reason, rest, -⟩ := e
  obtain ⟨R, msg⟩ := detailsInfo
  rcases rest with _ | ⟨message, _ | newReason⟩
  · by_cases hreason : reason = [] <;>
      simp [fields, tokensOf, readByToken, readTokens, readByPosition, concerns, hreason]
  · by_cases hreason : reason = [] <;> by_cases hmessage : message = [] <;>
      by_cases hR : atoi reason = R <;>
      simp_all [fields, tokensOf, readByToken, readTokens, readByPosition, concerns]
  · by_cases hreason : reason = [] <;> by_cases hmessage : message = [] <;>
      by_cases hnew : newReason = [] <;> by_cases hR : atoi reason = R <;>
      by_cases hmoved : atoi message = R <;>
      simp_all [fields, tokensOf, readByToken, readTokens, readByPosition, concerns]

theorem readByPosition_of_passed (h : (e.readByPosition detailsInfo).2 = false) :
    (e.readByPosition detailsInfo).1 = detailsInfo := by
  unfold readByPosition at h ⊢
  split
  · rfl
  · rename_i heq
    rw [heq] at h
    simp only at h
    split at h
    · cases h
    · rename_i hreason
      rw [if_neg hreason]

theorem readTokens_flagged (tmpReason : Int) (tokens : List Str) :
    (readTokens tmpReason detailsInfo true tokens).2 = true := by
  induction tokens generalizing detailsInfo with
  | nil => rfl
  | cons ptr tokens ih =>
    rw [readTokens]
    split
    · exact ih _
    · rfl

theorem readByToken_of_passed {tokens : List Str} (h : (readByToken detailsInfo tokens).2 = false) :
    (readByToken detailsInfo tokens).1 = detailsInfo := by
  rcases tokens with _ | ⟨ptr, _ | ⟨message, tokens⟩⟩
  · rfl
  · rfl
  · rw [readByToken, readTokens] at h ⊢
    split at h
    · rw [readTokens_flagged] at h
      cases h
    · rename_i hreason
      rw [if_neg hreason]

section
variable {read read' : DisconnectedDetails → MappingEntry → DisconnectedDetails × Bool}

/-- Where the search stops it has not stopped before. -/
theorem le_of_search {i k : Nat} {detailsInfo d : DisconnectedDetails}
    {entries : List MappingEntry} (h : search read i detailsInfo entries = (d, some k)) :
    i ≤ k := by
  induction entries generalizing i detailsInfo with
  | nil => cases h
  | cons e entries ih =>
    rw [search] at h
    split at h
    · obtain ⟨-, hk⟩ := Prod.mk.inj h
      exact Nat.le_of_eq (Option.some.inj hk)
    · exact Nat.le_of_succ_le (ih h)

/-- Two ways to read an entry lead to the same if and only if they agree on the
first entry that either stops at. -/
theorem search_eq_iff (hread : ∀ d e, (read d e).2 = false → (read d e).1 = d)
    (hread' : ∀ d e, (read' d e).2 = false → (read' d e).1 = d) (i : Nat)
    (detailsInfo : DisconnectedDetails) (entries : List MappingEntry) :
    search read i detailsInfo entries = search read' i detailsInfo entries ↔
      ∀ e, entries.find? (fun e => (read detailsInfo e).2 || (read' detailsInfo e).2) = some e →
        read detailsInfo e = read' detailsInfo e := by
  induction entries generalizing i with
  | nil => simp [search]
  | cons e entries ih =>
    rw [List.find?_cons]
    cases hstop : (read detailsInfo e).2 <;> cases hstop' : (read' detailsInfo e).2
    · -- passed by both
      have hboth : read detailsInfo e = read' detailsInfo e :=
        Prod.ext ((hread _ _ hstop).trans (hread' _ _ hstop').symm) (hstop.trans hstop'.symm)
      simp only [search, hstop, hstop', Bool.or_self, Bool.false_eq_true, if_false,
        hread _ _ hstop, hread' _ _ hstop', ih]
    · -- only `read'` stops here
      have hdiff : read detailsInfo e ≠ read' detailsInfo e := fun heq =>
        absurd (hstop.symm.trans ((congrArg Prod.snd heq).trans hstop')) (by decide)
      have hlater : search read i detailsInfo (e :: entries) ≠
          search read' i detailsInfo (e :: entries) := by
        rw [search, search, hstop, hstop', if_neg (by decide), if_pos rfl]
        intro heq
        exact absurd (le_of_search heq) (Nat.not_succ_le_self i)
      simp [hlater, hdiff]
    · have hdiff : read detailsInfo e ≠ read' detailsInfo e := fun heq =>
        absurd (hstop.symm.trans ((congrArg Prod.snd heq).trans hstop')) (by decide)
      have hlater : search read i detailsInfo (e :: entries) ≠
          search read' i detailsInfo (e :: entries) := by
        rw [search, search, hstop, hstop', if_pos rfl, if_neg (by decide)]
        intro heq
        exact absurd (le_of_search heq.symm) (Nat.not_succ_le_self i)
      simp [hlater, hdiff]
    · have hsame : search read i detailsInfo (e :: entries) =
          search read' i detailsInfo (e :: entries) ↔
            (read detailsInfo e).1 = (read' detailsInfo e).1 := by
        rw [search, search, hstop, hstop', if_pos rfl, if_pos rfl, Prod.mk.injEq,
          and_iff_left rfl]
      simp [hsame, Prod.ext_iff, hstop, hstop']

end

/-- The search of the code, by tokens. -/
theorem searchReasonInfo_text (i : Nat) (entries : List MappingEntry) :
    searchReasonInfo i detailsInfo (entries.map text) =
      some (search (fun d e => readByToken d (tokensOf e.fields)) i detailsInfo entries) := by
  induction entries generalizing i detailsInfo with
  | nil => rfl
  | cons e entries ih =>
    rw [List.map_cons, searchReasonInfo, readReasonInfo_text, Option.bind_some, search]
    simp only []
    split
    · rfl
    · rename_i hpassed
      rw [Bool.not_eq_true] at hpassed
      rw [readByToken_of_passed detailsInfo hpassed]
      exact ih detailsInfo (i + 1)

end MappingEntry

/-- The entries of a slot. -/
def mappingOf (K : ConfigConstants) (mapping : Int → List MappingEntry) (slotId : Int) :
    List MappingEntry :=
  if CellularCallConfig.isValidSlotId K slotId then mapping slotId else []

/-- The response ends, and sends the details that the first entry of the reason
has at the places of its fields. -/
def MappedByPosition (K : ConfigConstants) (mapping : Int → List MappingEntry)
    (sendTelEvent : Bool) (slotId : Int) (details : DisconnectedDetails) : Prop :=
  lastCallFailReasonResponse K (fun slotId => (mapping slotId).map MappingEntry.text)
      ⟨true, sendTelEvent⟩ slotId details =
    let (sent, entry) :=
      MappingEntry.search (fun d e => e.readByPosition d) 0 details (mappingOf K mapping slotId)
    some ⟨if sendTelEvent then .success else .errFail, some sent, entry⟩

instance (K : ConfigConstants) (mapping : Int → List MappingEntry) (sendTelEvent : Bool)
    (slotId : Int) (details : DisconnectedDetails) :
    Decidable (MappedByPosition K mapping sendTelEvent slotId details) :=
  inferInstanceAs (Decidable (_ = _))

section
variable (K : ConfigConstants) (mapping : Int → List MappingEntry) (sendTelEvent : Bool)
  (slotId : Int) (details : DisconnectedDetails)

/-- The response ends, with what the entries are by their tokens. -/
theorem lastCallFailReasonResponse_text :
    lastCallFailReasonResponse K (fun slotId => (mapping slotId).map MappingEntry.text)
        ⟨true, sendTelEvent⟩ slotId details =
      let (sent, entry) := MappingEntry.search (fun d e => readByToken d (tokensOf e.fields)) 0
        details (mappingOf K mapping slotId)
      some ⟨if sendTelEvent then .success else .errFail, some sent, entry⟩ := by
  have hentries : getImsCallDisconnectResoninfoMappingConfig K
      (fun slotId => (mapping slotId).map MappingEntry.text) slotId =
        (mappingOf K mapping slotId).map MappingEntry.text := by
    unfold getImsCallDisconnectResoninfoMappingConfig mappingOf
    split <;> rfl
  rw [lastCallFailReasonResponse, if_pos rfl, hentries, MappingEntry.searchReasonInfo_text,
    Option.map_some]

/-- The response ends; it sends what the entries say if and only if the first one
that concerns the reason has its fields in place. -/
theorem mappedByPosition_iff :
    (∃ answer, lastCallFailReasonResponse K (fun slotId => (mapping slotId).map MappingEntry.text)
      ⟨true, sendTelEvent⟩ slotId details = some answer) ∧
    (MappedByPosition K mapping sendTelEvent slotId details ↔
      ∀ e, (mappingOf K mapping slotId).find? (MappingEntry.concerns details.reason) = some e →
        e.InPlace details.reason) := by
  refine ⟨⟨_, lastCallFailReasonResponse_text K mapping sendTelEvent slotId details⟩, ?_⟩
  have hsame := MappingEntry.search_eq_iff
    (fun d (e : MappingEntry) (h : (readByToken d (tokensOf e.fields)).2 = false) =>
      MappingEntry.readByToken_of_passed d h)
    (fun d e => e.readByPosition_of_passed d) 0 details (mappingOf K mapping slotId)
  simp only [MappingEntry.concerns_eq, MappingEntry.readByToken_eq_iff] at hsame
  have hconcerns : MappedByPosition K mapping sendTelEvent slotId details ↔
      MappingEntry.search (fun d e => readByToken d (tokensOf e.fields)) 0 details
          (mappingOf K mapping slotId) =
        MappingEntry.search (fun d e => e.readByPosition d) 0 details
          (mappingOf K mapping slotId) := by
    rw [MappedByPosition, lastCallFailReasonResponse_text]
    simp [Prod.ext_iff]
  rw [hconcerns, hsame]
  refine forall₂_congr fun e he => ?_
  exact imp_iff_right (@List.find?_some _ (MappingEntry.concerns details.reason) _ _ he)

end

/-- `1||5` replaces the reason 1 by the message 5 rather than by the reason 5. -/
theorem not_mappedByPosition_of_empty_message :
    ¬∀ (K : ConfigConstants) (mapping : Int → List MappingEntry) (sendTelEvent : Bool)
      (slotId : Int) (details : DisconnectedDetails),
      MappedByPosition K mapping sendTelEvent slotId details := by
  intro hall
  have hmapped := hall twoSlots
    (fun _ => [⟨['1'], some ([], some ['5']), by simp⟩]) true 0 ⟨1, ['x']⟩
  exact absurd hmapped (by decide)

end CellularCall
