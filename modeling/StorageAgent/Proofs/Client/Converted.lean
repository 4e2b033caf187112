import StorageAgent.Proofs.Client.Attempts
import StorageAgent.Proofs.Payload.Fields

/-!
# Requests converted before they are checked

The client converts the name and the data of a request to bytes, and the encoder checks what comes
out. What has bytes keeps them. But all that can be converted has bytes then: a number becomes that
many zeros and a list its items, and the encoder no longer sees that it would have refused them.

* `Draft.Converts.check_eq`: a converted draft is checked alike, unless the first misfit of the draft
  has no bytes.
* `Client.agrees_iff`: which requests the client treats as the encoder does.
-/
namespace StorageAgent

open Behaviour
open Request (Field)

/-! ## Conversion of one argument -/

namespace Argument

variable {a a' : Argument} {f : Failure} {memory size : Nat} {field : String}

/-- How a conversion ends: with an argument that has bytes, or with what is no fault of a field. -/
inductive Conversion : Except Failure Argument → Prop where
  | bytes {a : Argument} (h : a.bytes? ≠ none) : Conversion (.ok a)
  | fault (kind : FaultKind) : Conversion (.error (.of kind))

theorem ofCount_conversion (n : Int) : Conversion (ofCount memory n) := by
  unfold ofCount
  split
  · exact .fault _
  · split
    · exact .fault _
    · split
      · exact .fault _
      · exact .bytes (Option.some_ne_none _)

theorem item_cases (j : Json) : (∃ b, item j = .ok b) ∨ ∃ kind, item j = .error (.of kind) := by
  unfold item
  split
  · exact .inl ⟨_, rfl⟩
  · split
    · exact .inl ⟨_, rfl⟩
    · exact .inr ⟨_, rfl⟩
  · exact .inr ⟨_, rfl⟩

theorem items_conversion (items : List Json) :
    Conversion ((items.mapM item).map Argument.bytes) := by
  induction items with
  | nil => exact .bytes (Option.some_ne_none _)
  | cons j items ih =>
    rw [List.mapM_cons]
    obtain ⟨b, hb⟩ | ⟨kind, hkind⟩ := item_cases j
    · rw [hb]
      cases hitems : items.mapM item with
      | ok rest => exact .bytes (Option.some_ne_none _)
      | error f =>
        rw [hitems] at ih
        exact ih
    · rw [hkind]
      exact .fault kind

theorem convertText_conversion (a : Argument) : Conversion (a.convertText memory) := by
  cases a with
  | bool b => exact ofCount_conversion _
  | int n => exact ofCount_conversion n
  | list items => exact items_conversion items
  | null => exact .fault _
  | float x => exact .fault _
  | _ => exact .bytes (Option.some_ne_none _)

theorem bytes?_of_convertText (h : a.convertText memory = .ok a') : a'.bytes? ≠ none := by
  have hconversion := @convertText_conversion memory a
  rw [h] at hconversion
  cases hconversion with
  | bytes hb => exact hb

theorem convertText_eq_error (h : a.convertText memory = .error f) : ∃ kind, f = .of kind := by
  have hconversion := @convertText_conversion memory a
  rw [h] at hconversion
  cases hconversion with
  | fault kind => exact ⟨kind, rfl⟩

/-- What has bytes is converted, and keeps them. -/
theorem exists_convertText (h : a.bytes? ≠ none) :
    ∃ a', a.convertText memory = .ok a' ∧ a'.bytes? = a.bytes? := by
  cases a with
  | text s =>
    have hbytes : some (Text.Utf8.encode s) = some s.toUTF8.data.toList := by
      rw [Text.Utf8.encode_eq]
    exact ⟨_, rfl, hbytes⟩
  | bytes b => exact ⟨_, rfl, rfl⟩
  | buffer b => exact ⟨_, rfl, rfl⟩
  | zeros count => exact ⟨_, rfl, rfl⟩
  | _ => exact absurd rfl h

theorem bytes?_convertText (h : a.convertText memory = .ok a') (hb : a.bytes? ≠ none) :
    a'.bytes? = a.bytes? := by
  obtain ⟨a'', hconvert, hbytes⟩ := exists_convertText hb
  rw [h, Except.ok.injEq] at hconvert
  rw [hconvert]
  exact hbytes

/-- Only the bytes count for a field, where there are any. -/
theorem fitting_congr (h : a'.bytes? = a.bytes?) (hb : a.bytes? ≠ none) :
    a'.fitting size field = a.fitting size field := by
  obtain ⟨b, hb⟩ := Option.ne_none_iff_exists'.1 hb
  rw [hb] at h
  simp only [fitting_eq, toBytes_eq, h, hb]

end Argument

/-! ## Conversion of a draft -/

namespace Draft

variable {d d' : Draft} {f : Field} {memory : Nat}

/-- A draft with its name and its data converted, where there is so much memory. -/
structure Converts (memory : Nat) (d d' : Draft) : Prop where
  name : d.name.convertText memory = .ok d'.name
  data : d.data.convertText memory = .ok d'.data
  rest : d' = { d with name := d'.name, data := d'.data }

/-- If a field holds a byte string, the draft gives bytes for it. -/
def Legible (d : Draft) (f : Field) : Prop :=
  ∀ size, f.kind = .string size → (d.argument f).bytes? ≠ none

theorem Fits.legible (h : d.Fits f) : d.Legible f := by
  intro size hkind
  rw [Fits, hkind] at h
  obtain ⟨b, hb, -⟩ := h
  rw [hb]
  exact Option.some_ne_none b

namespace Converts

theorem fault?_eq (h : d.Converts memory d') (hf : d.Legible f) : d'.fault? f = d.fault? f := by
  rw [h.rest]
  cases f with
  | name =>
    have hb : d.name.bytes? ≠ none := hf 128 rfl
    exact congrArg faultOf? (Argument.fitting_congr (Argument.bytes?_convertText h.name hb) hb)
  | data =>
    have hb : d.data.bytes? ≠ none := hf 512 rfl
    exact congrArg faultOf? (Argument.fitting_congr (Argument.bytes?_convertText h.data hb) hb)
  | _ => rfl

/-- Every field of a converted draft is legible. -/
theorem legible (h : d.Converts memory d') (f : Field) : d'.Legible f := by
  intro size hkind
  cases f with
  | name => exact Argument.bytes?_of_convertText h.name
  | data => exact Argument.bytes?_of_convertText h.data
  | _ => cases hkind

theorem firstMisfit (h : d.Converts memory d') (hf : d.FirstMisfit f) (hlegible : d.Legible f) :
    d'.FirstMisfit f := by
  obtain ⟨earlier, later, hall, hearlier, hmisfit⟩ := hf
  refine ⟨earlier, later, hall, ?_, ?_⟩
  · intro g hg
    have hfits : d.Fits g := hearlier g hg
    rw [← fault?_eq_none_iff, h.fault?_eq hfits.legible]
    exact fault?_of_fits hfits
  · rw [← fault?_eq_none_iff, h.fault?_eq hlegible, fault?_eq_none_iff]
    exact hmisfit

theorem says_eq (h : d.Converts memory d') {request : Request} (hrequest : d.Says Eq request) :
    d'.Says Eq request := by
  have hgives : ∀ {a a' : Argument} {b : Bytes}, a.convertText memory = .ok a' →
      a.Gives Eq b → a'.Gives Eq b := by
    intro a a' b hconvert ⟨given, hgiven, hb⟩
    have hsome : a.bytes? ≠ none := by
      rw [hgiven]
      exact Option.some_ne_none given
    exact ⟨given, (Argument.bytes?_convertText hconvert hsome).trans hgiven, hb⟩
  exact {
    clientId := by rw [h.rest]; exact hrequest.clientId
    requestType := by rw [h.rest]; exact hrequest.requestType
    name := hgives h.name hrequest.name
    fileId := by rw [h.rest]; exact hrequest.fileId
    position := by rw [h.rest]; exact hrequest.position
    data := hgives h.data hrequest.data }

/-- A converted draft is checked alike, unless the first misfit of the draft has no bytes. -/
theorem check_eq (h : d.Converts memory d') (hlegible : ∀ f, d.FirstMisfit f → d.Legible f) :
    d'.check = d.check := by
  cases hd : d.check with
  | ok request =>
    have hrequest : d.Says Eq request := check_eq_ok_iff.1 hd
    exact check_eq_ok_iff.2 (h.says_eq hrequest)
  | error fault =>
    obtain ⟨f, hf, hfault⟩ := check_eq_error_iff.1 hd
    have hmisfit' : ¬ d'.Fits f := (h.firstMisfit hf (hlegible f hf)).not_fits
    have hsame := h.fault?_eq (hlegible f hf)
    rw [fault?_of_not_fits hmisfit', fault?_of_not_fits hf.not_fits, Option.some.injEq] at hsame
    exact check_eq_error_iff.2 ⟨f, h.firstMisfit hf (hlegible f hf), hfault.trans hsame.symm⟩

/-- No bytes are missed in a converted draft. -/
theorem check_ne_notBytes (h : d.Converts memory d') (label given : String) :
    d'.check ≠ .error (.notBytes label given) := by
  intro herror
  obtain ⟨f, -, hfault⟩ := check_eq_error_iff.1 herror
  obtain ⟨-, -, ⟨width, hkind⟩, hnone⟩ := Request.Field.fault_eq_notBytes_iff.1 hfault.symm
  exact h.legible f width hkind hnone

end Converts

/-- An accepted draft can be converted. -/
theorem exists_converts_of_check {request : Request} (h : d.check = .ok request) :
    ∃ d', d.Converts memory d' := by
  have hfits : ∀ f, d.Fits f := check_isOk_iff.1 ⟨request, h⟩
  obtain ⟨name, hname, -⟩ := Argument.exists_convertText ((hfits .name).legible 128 rfl)
  obtain ⟨data, hdata, -⟩ := Argument.exists_convertText ((hfits .data).legible 512 rfl)
  exact ⟨{ d with name, data }, hname, hdata, rfl⟩

end Draft

/-! ## The instruction of a draft -/

theorem Instruction.sendRequest_eq (program caller : Address) (d : Draft) :
    sendRequest program caller d =
      match d.check with
      | .ok request => ofCall program caller (.sendRequest request)
      | .error fault => .error (.input fault) := by
  have hopcode : (Argument.int Opcode.sendRequest.code.toNat).opcode = .ok .sendRequest := rfl
  rw [sendRequest, encode, hopcode]
  dsimp only
  rw [Call.check]
  cases d.check with
  | ok request => rfl
  | error fault => rfl

theorem Instruction.sendRequest_eq_input_iff {program caller : Address} {d : Draft}
    {fault : InputFault} :
    sendRequest program caller d = .error (.input fault) ↔ d.check = .error fault := by
  rw [sendRequest_eq]
  cases hd : d.check with
  | error fault' => simp
  | ok request =>
    simp only [reduceCtorEq, iff_false]
    unfold ofCall
    split
    · simp
    · simp

/-- The instruction of an accepted draft uses the request account of the caller. -/
theorem Instruction.sendRequest_of_check {program caller : Address} {d : Draft} {request : Request}
    {found : Address.Derived} (hcheck : d.check = .ok request)
    (hfound : Address.requestAccount program caller = .ok found) :
    sendRequest program caller d =
      .ok ⟨.sendRequest, program, request.payload, [.payer caller, .owned found.address]⟩ := by
  have haccounts : accountsFor program caller .sendRequest =
      .ok [.payer caller, .owned found.address] := by
    rw [accountsFor, hfound]
    rfl
  have hcall : Call.check .sendRequest (.send d) = .ok (.sendRequest request) := by
    rw [Call.check, hcheck]
    rfl
  exact encode_eq_ok_iff.2 ⟨.sendRequest, .sendRequest request, _, rfl, hcall, haccounts, rfl⟩

namespace Client

variable {τ : Type} [Seconds τ] {c : Client τ} {d d' : Draft} {instruction : Instruction}
  {t : List (Dialogue.Event τ)} {r : Except Failure Outcome}

/-! ## Runs of a request -/

theorem run_perform_ok :
    Run (perform Dialogue.host Dialogue.ledger c (.ok instruction)) t r ↔
      Run (execute Dialogue.host Dialogue.ledger c instruction) t r :=
  run_ok_bind

theorem run_perform_error {error : ClientError} :
    Run (perform Dialogue.host Dialogue.ledger c (.error error)) t r ↔
      t = [] ∧ r = .error (.client error) :=
  run_error_bind

/-- What a draft is converted to is encoded. -/
theorem run_sendRequest_of_converts (h : d.Converts c.memory d') :
    Run (sendRequest Dialogue.host Dialogue.ledger c d) t r ↔
      Run (perform Dialogue.host Dialogue.ledger c
        (Instruction.sendRequest c.program c.caller d')) t r := by
  rw [sendRequest, h.name, h.data, run_ok_bind, run_ok_bind, ← h.rest]

/-- A draft that cannot be converted ends a request before it begins, and not with an error of the
client. -/
theorem run_sendRequest_of_not_converts (h : ¬ ∃ d', d.Converts c.memory d') :
    ∃ kind, Run (sendRequest Dialogue.host Dialogue.ledger c d) [] (.error (.of kind)) := by
  rw [sendRequest]
  cases hname : d.name.convertText c.memory with
  | error f =>
    obtain ⟨kind, rfl⟩ := Argument.convertText_eq_error hname
    exact ⟨kind, run_error_bind.2 ⟨rfl, rfl⟩⟩
  | ok name =>
    cases hdata : d.data.convertText c.memory with
    | error f =>
      obtain ⟨kind, rfl⟩ := Argument.convertText_eq_error hdata
      exact ⟨kind, run_ok_bind.2 (run_error_bind.2 ⟨rfl, rfl⟩)⟩
    | ok data => exact absurd ⟨{ d with name, data }, hname, hdata, rfl⟩ h

omit [Seconds τ] in
theorem Attempted.carries {events : List Ledger.Event} (h : Attempted c instruction events r)
    {raw : Bytes} {answer : Except Failure Json} (hsent : .sent raw answer ∈ events) :
    ∃ blockhash, Carries c instruction blockhash raw := by
  cases h with
  | unanswered => simp at hsent
  | unsigned => simp at hsent
  | @refused _ blockhash _ _ hhash hraw =>
    simp only [List.mem_cons, reduceCtorEq, Ledger.Event.sent.injEq, List.not_mem_nil, or_false,
      false_or] at hsent
    rw [hsent.1]
    exact ⟨blockhash, hraw⟩
  | @polled _ blockhash _ _ _ _ hhash hraw hpolls =>
    simp only [List.mem_cons, reduceCtorEq, Ledger.Event.sent.injEq, false_or] at hsent
    obtain ⟨heq, -⟩ | hpoll := hsent
    · rw [heq]
      exact ⟨blockhash, hraw⟩
    · exact (hpolls _ hpoll).elim

/-- All transactions of an operation carry its instruction. -/
theorem carries_of_execute
    (h : Run (execute Dialogue.host Dialogue.ledger c instruction) t r) {raw : Bytes}
    {answer : Except Failure Json} (hsent : .sent raw answer ∈ Dialogue.calls t) :
    ∃ blockhash, Carries c instruction blockhash raw := by
  obtain ⟨s, hattempts, hcalls⟩ := attempts_of_execute h
  obtain ⟨tries, -, hruns, htries, -⟩ := attempts_tries hattempts
  rw [hcalls, htries, List.mem_flatMap] at hsent
  obtain ⟨a, ha, hsent⟩ := hsent
  exact (attempt_run (hruns a ha)).carries hsent

/-- An operation asks for a block hash, and ends if there is no answer. -/
theorem execute_of_unanswered (c : Client τ) (instruction : Instruction) :
    ∃ t, Run (execute Dialogue.host Dialogue.ledger c instruction) t (.error (.of .system)) ∧
      Dialogue.calls t = [.checkpoint (.error (.of .system))] := by
  have hattempt : Run (attempt Dialogue.host Dialogue.ledger c instruction)
      [.ledger (.checkpoint (.error (.of .system)))] (.error (.of .system)) :=
    run_bind.2 (.inr ⟨_, rfl, rfl⟩)
  exact ⟨_, execute_of_attempts ⟨_, _, [], hattempt, ⟨rfl, rfl⟩, rfl⟩, rfl⟩

/-! ## Agreement with the encoder -/

/-- The client treats a draft as the encoder does. What the encoder makes of it is executed, and is
what each transaction carries. A fault of the encoder is reported, and nothing happens before. -/
structure Agrees (c : Client τ) (d : Draft) : Prop where
  built : ∀ instruction, Instruction.sendRequest c.program c.caller d = .ok instruction →
    ∀ t r, (Run (sendRequest Dialogue.host Dialogue.ledger c d) t r ↔
        Run (execute Dialogue.host Dialogue.ledger c instruction) t r) ∧
      (Run (sendRequest Dialogue.host Dialogue.ledger c d) t r →
        ∀ raw answer, .sent raw answer ∈ Dialogue.calls t →
          ∃ blockhash, Carries c instruction blockhash raw)
  refused : ∀ fault, Instruction.sendRequest c.program c.caller d = .error (.input fault) →
    ∀ t r, Run (sendRequest Dialogue.host Dialogue.ledger c d) t r ↔
      t = [] ∧ r = .error (.client (.input fault))

theorem agrees_of_legible (h : d.Converts c.memory d') (hlegible : ∀ f, d.FirstMisfit f → d.Legible f) :
    Agrees c d := by
  have hcheck : d'.check = d.check := h.check_eq hlegible
  have hsame : Instruction.sendRequest c.program c.caller d' =
      Instruction.sendRequest c.program c.caller d := by
    rw [Instruction.sendRequest_eq, Instruction.sendRequest_eq, hcheck]
  refine ⟨?_, ?_⟩
  · intro instruction hinstruction t r
    have hrun : Run (sendRequest Dialogue.host Dialogue.ledger c d) t r ↔
        Run (execute Dialogue.host Dialogue.ledger c instruction) t r := by
      rw [run_sendRequest_of_converts h, hsame, hinstruction, run_perform_ok]
    exact ⟨hrun, fun ht raw answer hsent => carries_of_execute (hrun.1 ht) hsent⟩
  · intro fault hfault t r
    rw [run_sendRequest_of_converts h, hsame, hfault, run_perform_error]

theorem Agrees.converts (h : Agrees c d) : ∃ d', d.Converts c.memory d' := by
  by_cases hconverts : ∃ d', d.Converts c.memory d'
  · exact hconverts
  · cases hd : d.check with
    | ok request => exact Draft.exists_converts_of_check hd
    | error fault =>
      obtain ⟨kind, hrun⟩ := run_sendRequest_of_not_converts (c := c) hconverts
      obtain ⟨-, hr⟩ := (h.refused fault (Instruction.sendRequest_eq_input_iff.2 hd) _ _).1 hrun
      cases hr

theorem Agrees.legible (h : Agrees c d) {f : Field} (hf : d.FirstMisfit f) : d.Legible f := by
  intro size hkind hnone
  obtain ⟨d', hconverts⟩ := h.converts
  have hfault : f.fault (d.argument f) = .notBytes f.label (d.argument f).kindName :=
    Request.Field.fault_eq_notBytes_iff.2 ⟨rfl, rfl, ⟨size, hkind⟩, hnone⟩
  have hrefused := h.refused _
    (Instruction.sendRequest_eq_input_iff.2 (Draft.check_eq_error_iff.2 ⟨f, hf, hfault.symm⟩))
  simp only [run_sendRequest_of_converts hconverts] at hrefused
  -- the converted draft is executed, or its fault is another one
  cases hd' : Instruction.sendRequest c.program c.caller d' with
  | ok instruction =>
    obtain ⟨t, hrun, hcalls⟩ := execute_of_unanswered c instruction
    obtain ⟨ht, -⟩ := (hrefused t _).1 (by rw [hd']; exact run_perform_ok.2 hrun)
    rw [ht] at hcalls
    cases hcalls
  | error error =>
    obtain ⟨-, hr⟩ := (hrefused [] (.error (.client error))).1
      (by rw [hd']; exact run_perform_error.2 ⟨rfl, rfl⟩)
    cases hr
    exact hconverts.check_ne_notBytes _ _ (Instruction.sendRequest_eq_input_iff.1 hd')

/-- The client treats a draft as the encoder does exactly if its name and data can be converted, and
the first field that does not take what it is given is not refused for having no bytes. -/
theorem agrees_iff (c : Client τ) (d : Draft) :
    Agrees c d ↔ (∃ name, d.name.convertText c.memory = .ok name) ∧
      (∃ data, d.data.convertText c.memory = .ok data) ∧
      ∀ f size, d.FirstMisfit f → f.kind = .string size → (d.argument f).bytes? ≠ none := by
  constructor
  · intro h
    obtain ⟨d', hconverts⟩ := h.converts
    refine ⟨⟨_, hconverts.name⟩, ⟨_, hconverts.data⟩, ?_⟩
    intro f size hf hkind
    exact h.legible hf size hkind
  · intro ⟨⟨name, hname⟩, ⟨data, hdata⟩, hlegible⟩
    have hconverts : d.Converts c.memory { d with name, data } := ⟨hname, hdata, rfl⟩
    exact agrees_of_legible hconverts fun f hf size hkind => hlegible f size hf hkind

end Client

namespace Sample

/-! ## A number for a name -/

/-- The request account of the sample's key. -/
def requestAccount : Address :=
  .ofNat 0x67b0ba64f277333e796c78bd4e56492852ee4f21f4d7c7c912ab4968c7a99857

theorem requestAccount_eq :
    Address.requestAccount program key.address = .ok ⟨requestAccount, 255⟩ := by
  have hseeds : Address.checkSeeds (Address.seedCount - 1)
      [Address.requestSeed, key.address.bytes] = .ok () := rfl
  have hsearch : Address.search [Address.requestSeed, key.address.bytes] program 255 =
      some ⟨requestAccount, 255⟩ := by decide +kernel
  exact Address.find_of_search hseeds hsearch

/-- A write to a file, with a text for its name. -/
def named : Draft := { requestType := .int 2, name := .text "naïve", data := .buffer [1, 2] }

/-- A write to a file, with a number for its name. -/
def numbered : Draft := { requestType := .int 2, name := .int 3, data := .buffer [1, 2] }

/-- What the second becomes. -/
def zeroed : Draft := { requestType := .int 2, name := .zeros 3, data := .bytes [1, 2] }

/-- The write that asks for a name of three zeros. -/
def zeroedRequest : Request :=
  ⟨0, .writeFile, [0, 0, 0], 0, 0, [1, 2], by decide, by decide⟩

/-- The instruction for it. -/
def zeroedInstruction : Instruction where
  opcode := .sendRequest
  program
  payload := zeroedRequest.payload
  accounts := [.payer key.address, .owned requestAccount]

theorem zeroed_instruction :
    Instruction.sendRequest program key.address zeroed = .ok zeroedInstruction :=
  Instruction.sendRequest_of_check rfl requestAccount_eq

end Sample

namespace Client

/-- A text with an accent, and a byte string that can be written to. -/
theorem agrees_named : Agrees Sample.client Sample.named := by
  refine (agrees_iff _ _).2 ⟨⟨_, rfl⟩, ⟨_, rfl⟩, ?_⟩
  intro f size _ hkind
  cases f with
  | name => exact Option.some_ne_none _
  | data => exact Option.some_ne_none _
  | _ => cases hkind

/-- The encoder refuses the number. The client executes the instruction that names three zeros, and
asks the ledger for a block hash. -/
theorem numbered_executed :
    Instruction.sendRequest Sample.client.program Sample.client.caller Sample.numbered =
      .error (.input (.notBytes "name" "int")) ∧
    (∀ t r, Run (sendRequest Dialogue.host Dialogue.ledger Sample.client Sample.numbered) t r ↔
      Run (execute Dialogue.host Dialogue.ledger Sample.client Sample.zeroedInstruction) t r) ∧
    (∃ t r, Run (sendRequest Dialogue.host Dialogue.ledger Sample.client Sample.numbered) t r ∧
      Dialogue.calls t ≠ []) ∧
    ¬ Agrees Sample.client Sample.numbered := by
  have hconverts : Sample.numbered.Converts Sample.client.memory Sample.zeroed := ⟨rfl, rfl, rfl⟩
  have hrefused : Instruction.sendRequest Sample.client.program Sample.client.caller
      Sample.numbered = .error (.input (.notBytes "name" "int")) :=
    Instruction.sendRequest_eq_input_iff.2 rfl
  have hrun : ∀ t r,
      Run (sendRequest Dialogue.host Dialogue.ledger Sample.client Sample.numbered) t r ↔
        Run (execute Dialogue.host Dialogue.ledger Sample.client Sample.zeroedInstruction) t r := by
    intro t r
    rw [run_sendRequest_of_converts hconverts]
    show Run (perform _ _ _ (Instruction.sendRequest Sample.program Sample.key.address
      Sample.zeroed)) t r ↔ _
    rw [Sample.zeroed_instruction, run_perform_ok]
  obtain ⟨t, hexecute, hcalls⟩ := execute_of_unanswered Sample.client Sample.zeroedInstruction
  have hasks : Dialogue.calls t ≠ [] := by
    rw [hcalls]
    exact List.cons_ne_nil _ _
  refine ⟨hrefused, hrun, ⟨t, _, (hrun t _).2 hexecute, hasks⟩, ?_⟩
  intro hagrees
  obtain ⟨ht, -⟩ := (hagrees.refused _ hrefused t _).1 ((hrun t _).2 hexecute)
  rw [ht] at hasks
  exact hasks rfl

end Client
end StorageAgent
