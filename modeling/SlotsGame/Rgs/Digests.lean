/-
# SlotsGame.Rgs.Digests -- the preimages of the digests

A field is written behind the sizes of its name and its value, so a field delimits
itself and a list of fields is read back from its bytes (`writeFingerprintFields_inj`),
whatever its strings hold.  The first field names the schema, which keeps the kinds of
preimages apart.  A digest then determines what it was taken of, on any set of messages
on which SHA-256 has no collision.
-/
import Mathlib.Algebra.Ring.Int.Defs
import SlotsGame.Rgs.Fingerprint
import SlotsGame.Theory.Framing
import Std.Data.String.ToInt

namespace SlotsGame.Rgs

open SlotsGame.Theory

set_option autoImplicit false

/-! ## Bytes -/

theorem toList_bytes (bytes : ByteArray) : bytes.toList = bytes.data.toList := by
  have loop (place : Nat) (read : List UInt8) :
      ByteArray.toList.loop bytes place read = read.reverse ++ bytes.data.toList.drop place := by
    induction place, read using ByteArray.toList.loop.induct bytes with
    | case1 place read inside ih =>
        have held : place < bytes.data.toList.length := by
          rw [Array.length_toList]
          exact inside
        have next : bytes.get! place = bytes.data.toList[place] := by
          show bytes.data[place]! = _
          rw [getElem!_pos bytes.data place inside, Array.getElem_toList]
        rw [ByteArray.toList.loop, if_pos inside, ih, List.reverse_cons, List.append_assoc,
          List.drop_eq_getElem_cons held, next]
        rfl
    | case2 place read outside =>
        have past : bytes.data.toList.length ≤ place := by
          rw [Array.length_toList]
          exact not_lt.mp outside
        rw [ByteArray.toList.loop, if_neg outside, List.drop_eq_nil_of_le past, List.append_nil]
  exact loop 0 []

/-- The bytes of a string. -/
def utf8 (text : String) : List UInt8 := text.toUTF8.toList

theorem utf8_injective : Function.Injective utf8 := by
  intro left right same
  rw [utf8, utf8, toList_bytes, toList_bytes] at same
  exact String.toByteArray_inj.mp (ByteArray.ext (Array.toList_inj.mp same))

/-- A string whose length the source's `int` holds. -/
def Sized (text : String) : Prop := (utf8 text).length < 2 ^ 63

/-! ## Fields -/

theorem putUint64_length (value : Nat) : (putUint64 value).length = 8 := by
  rw [putUint64, List.length_map, List.length_reverse, List.length_range]

theorem putUint64_inj {left right : Nat} (leftFits : left < 2 ^ 64) (rightFits : right < 2 ^ 64)
    (same : putUint64 left = putUint64 right) : left = right := by
  have bytes : ∀ place < 8, left / 256 ^ place % 256 = right / 256 ^ place % 256 := by
    intro place inside
    have digit := List.map_inj_left.mp same place (by simpa using inside)
    have := congrArg UInt8.toNat digit
    simpa [UInt8.toNat_ofNat'] using this
  have b0 := bytes 0 (by decide)
  have b1 := bytes 1 (by decide)
  have b2 := bytes 2 (by decide)
  have b3 := bytes 3 (by decide)
  have b4 := bytes 4 (by decide)
  have b5 := bytes 5 (by decide)
  have b6 := bytes 6 (by decide)
  have b7 := bytes 7 (by decide)
  omega

/-- A size delimits itself. -/
theorem putUint64_delimits : SelfDelimiting {size : Nat | size < 2 ^ 64} putUint64 :=
  SelfDelimiting.of_length putUint64_length fun _ leftFits _ rightFits =>
    putUint64_inj leftFits rightFits

/-- A field that the source can write. -/
def FieldSized (field : String × String) : Prop := Sized field.1 ∧ Sized field.2

/-- A field delimits itself. -/
theorem writeFingerprintField_delimits :
    SelfDelimiting {field | FieldSized field}
      fun field => writeFingerprintField field.1 field.2 := by
  have text : SelfDelimiting {text | Sized text}
      ((fun content => putUint64 content.length ++ content) ∘ utf8) :=
    putUint64_delimits.sized.comap
      (fun text (sized : Sized text) => Nat.lt_trans sized (show 2 ^ 63 < 2 ^ 64 by decide))
      utf8_injective.injOn
  have field := text.pair text
  intro left leftSized right rightSized first second same
  refine @field left leftSized right rightSized _ _ ?_
  simpa only [writeFingerprintField, Function.comp, List.append_assoc, utf8] using same

theorem writeFingerprintField_ne_nil (field : String × String) :
    writeFingerprintField field.1 field.2 ≠ [] := by
  intro empty
  have := congrArg List.length empty
  simp only [writeFingerprintField, List.length_append, putUint64_length, List.length_nil] at this
  omega

/-- The bytes of a list of fields determine the list. -/
theorem writeFingerprintFields_inj {left right : List (String × String)}
    (leftSized : ∀ field ∈ left, FieldSized field) (rightSized : ∀ field ∈ right, FieldSized field)
    (same : writeFingerprintFields left = writeFingerprintFields right) : left = right :=
  writeFingerprintField_delimits.sequence writeFingerprintField_ne_nil leftSized rightSized same

/-! ## Texts and numbers -/

theorem utf8_length (text : String) : (utf8 text).length = text.utf8ByteSize := by
  rw [utf8, toList_bytes, Array.length_toList]
  rfl

theorem utf8_length_le (text : String) : (utf8 text).length ≤ 4 * text.length := by
  have chars (list : List Char) :
      (String.ofList list).utf8ByteSize ≤ 4 * (String.ofList list).length := by
    induction list with
    | nil => decide
    | cons c rest ih =>
        have split : String.ofList (c :: rest) = String.singleton c ++ String.ofList rest := by
          rw [String.singleton_eq_ofList, ← String.ofList_append]
          rfl
        have one := c.utf8Size_le_four
        rw [split, String.utf8ByteSize_append, String.length_append, String.utf8ByteSize_singleton,
          String.length_singleton]
        omega
  rw [utf8_length]
  have := chars text.toList
  rwa [String.ofList_toList] at this

theorem sized_of_length {text : String} (short : text.length < 2 ^ 61) : Sized text := by
  have := utf8_length_le text
  unfold Sized
  omega

/-- An `int64`. -/
def IsInt64 (value : Int) : Prop := -2 ^ 63 ≤ value ∧ value < 2 ^ 63

theorem sized_nat {value : Nat} (fits : value < 2 ^ 64) : Sized (toString value) := by
  have digits : value.repr.length ≤ 20 :=
    (Nat.length_repr_le_iff (by decide)).mpr (Nat.lt_of_lt_of_le fits (by decide))
  refine sized_of_length ?_
  show value.repr.length < 2 ^ 61
  omega

theorem sized_int {value : Int} (fits : IsInt64 value) : Sized (toString value) := by
  obtain ⟨least, most⟩ := fits
  cases value with
  | ofNat n => exact sized_nat (by simp only [Int.ofNat_eq_natCast] at most; omega)
  | negSucc n =>
      have digits : (n + 1).repr.length ≤ 20 :=
        (Nat.length_repr_le_iff (by decide)).mpr (by omega)
      refine sized_of_length ?_
      show ("-" ++ (n + 1).repr).length < 2 ^ 61
      rw [String.length_append]
      have : "-".length = 1 := rfl
      omega

theorem toString_int_inj {left right : Int} (same : toString left = toString right) : left = right :=
  Int.repr_injective same

theorem toString_nat_inj {left right : Nat} (same : toString left = toString right) : left = right :=
  Nat.repr_injective same

/-- The schema of a preimage is its first field. -/
theorem schema_inj {left right : String} {leftRest rightRest : List (String × String)}
    (leftSized : Sized left) (rightSized : Sized right)
    (same : writeFingerprintFields (("schema", left) :: leftRest) =
      writeFingerprintFields (("schema", right) :: rightRest)) : left = right := by
  have label : Sized "schema" := sized_of_length (by decide)
  rw [writeFingerprintFields, writeFingerprintFields, List.flatMap_cons, List.flatMap_cons] at same
  have leftField : ("schema", left) ∈ {field | FieldSized field} := ⟨label, leftSized⟩
  have rightField : ("schema", right) ∈ {field | FieldSized field} := ⟨label, rightSized⟩
  have fields := (writeFingerprintField_delimits leftField rightField same).1
  exact congrArg Prod.snd fields

/-! ## Rounds, operations and commands -/

def fingerprintFields (request : SpinRequest) : List (String × String) :=
  [("schema", "rgs-round-fingerprint-v2"), ("operator", request.operatorID),
    ("session", request.sessionID), ("round", request.roundID), ("game", request.gameID),
    ("definition", request.definitionVersion), ("definitionHash", request.definitionHash),
    ("currency", request.currency), ("roundKind", request.roundKind.name),
    ("betMinor", toString request.betMinor), ("startRevision", toString request.startRevision)]

def operationFields (request : SpinRequest) : List (String × String) :=
  [("schema", "rgs-wallet-operation-v1"), ("operator", request.operatorID),
    ("session", request.sessionID), ("round", request.roundID)]

def commandFields (command : WalletRound) : List (String × String) :=
  [("schema", "rgs-wallet-command-v1"), ("walletContractVersion", walletContractVersionV2),
    ("walletProfileId", atomicHTTPProfileID), ("operationId", command.operationID),
    ("fingerprint", command.fingerprint), ("operatorId", command.operatorID),
    ("playerId", command.playerID), ("walletAccountId", command.walletAccountID),
    ("walletSessionRef", command.walletSessionRef), ("rgsSessionId", command.sessionID),
    ("roundId", command.roundID), ("gameId", command.gameID),
    ("definitionVersion", command.definitionVersion),
    ("definitionHash", command.definitionHash), ("roundKind", command.roundKind.name),
    ("currency", command.currency), ("debitMinor", toString command.debitMinor),
    ("creditMinor", toString command.creditMinor)]

theorem fingerprintFor_eq (codec : Codec) (request : SpinRequest) :
    fingerprintFor codec request =
      "rgs-fp-v2:" ++ codec.sha256 (writeFingerprintFields (fingerprintFields request)) := rfl

theorem walletOperationID_eq (codec : Codec) (request : SpinRequest) :
    walletOperationID codec request =
      "rgs-op-v1:" ++ codec.sha256 (writeFingerprintFields (operationFields request)) := rfl

theorem commandDigestFor_eq (codec : Codec) (command : WalletRound) :
    commandDigestFor codec command =
      "rgs-wallet-cmd-v1:" ++ codec.sha256 (writeFingerprintFields (commandFields command)) := rfl

/-- The fields of a request have values of the source's types. -/
structure SpinRequest.Representable (request : SpinRequest) : Prop where
  texts : ∀ text ∈ [request.operatorID, request.sessionID, request.roundID, request.gameID,
    request.definitionVersion, request.definitionHash, request.currency, request.roundKind.name],
    Sized text
  betMinor : IsInt64 request.betMinor
  startRevision : request.startRevision < 2 ^ 64

/-- The fields of a command have values of the source's types. -/
structure WalletRound.Representable (command : WalletRound) : Prop where
  texts : ∀ text ∈ [command.operationID, command.fingerprint, command.operatorID, command.playerID,
    command.walletAccountID, command.walletSessionRef, command.sessionID, command.roundID,
    command.gameID, command.definitionVersion, command.definitionHash, command.roundKind.name,
    command.currency], Sized text
  debitMinor : IsInt64 command.debitMinor
  creditMinor : IsInt64 command.creditMinor

/-- All the fields of a request but its transport generation; a kind is its name. -/
structure SpinRequest.SameRound (left right : SpinRequest) : Prop where
  operatorID : left.operatorID = right.operatorID
  sessionID : left.sessionID = right.sessionID
  roundID : left.roundID = right.roundID
  gameID : left.gameID = right.gameID
  definitionVersion : left.definitionVersion = right.definitionVersion
  definitionHash : left.definitionHash = right.definitionHash
  currency : left.currency = right.currency
  roundKind : left.roundKind.name = right.roundKind.name
  betMinor : left.betMinor = right.betMinor
  startRevision : left.startRevision = right.startRevision

/-- All the fields of a command but its digest; a kind is its name. -/
structure WalletRound.SameCommand (left right : WalletRound) : Prop where
  operationID : left.operationID = right.operationID
  fingerprint : left.fingerprint = right.fingerprint
  operatorID : left.operatorID = right.operatorID
  playerID : left.playerID = right.playerID
  walletAccountID : left.walletAccountID = right.walletAccountID
  walletSessionRef : left.walletSessionRef = right.walletSessionRef
  sessionID : left.sessionID = right.sessionID
  roundID : left.roundID = right.roundID
  gameID : left.gameID = right.gameID
  definitionVersion : left.definitionVersion = right.definitionVersion
  definitionHash : left.definitionHash = right.definitionHash
  roundKind : left.roundKind.name = right.roundKind.name
  currency : left.currency = right.currency
  debitMinor : left.debitMinor = right.debitMinor
  creditMinor : left.creditMinor = right.creditMinor

/-- A label of the source. -/
theorem labelled {label value : String} (short : label.length < 2 ^ 61) (sized : Sized value) :
    FieldSized (label, value) := ⟨sized_of_length short, sized⟩

theorem fingerprintFields_sized {request : SpinRequest} (fits : request.Representable) :
    ∀ field ∈ fingerprintFields request, FieldSized field := by
  have texts := fits.texts
  simp only [List.forall_mem_cons, List.not_mem_nil, false_imp_iff, implies_true, and_true]
    at texts
  obtain ⟨operator, session, round, game, version, hash, currency, kind⟩ := texts
  unfold fingerprintFields
  simp only [List.forall_mem_cons, List.not_mem_nil, false_imp_iff, implies_true, and_true]
  exact ⟨labelled (by decide) (sized_of_length (by decide)), labelled (by decide) operator,
    labelled (by decide) session, labelled (by decide) round, labelled (by decide) game,
    labelled (by decide) version, labelled (by decide) hash, labelled (by decide) currency,
    labelled (by decide) kind, labelled (by decide) (sized_int fits.betMinor),
    labelled (by decide) (sized_nat fits.startRevision)⟩

theorem operationFields_sized {request : SpinRequest} (fits : request.Representable) :
    ∀ field ∈ operationFields request, FieldSized field := by
  have texts := fits.texts
  simp only [List.forall_mem_cons, List.not_mem_nil, false_imp_iff, implies_true, and_true]
    at texts
  obtain ⟨operator, session, round, _⟩ := texts
  unfold operationFields
  simp only [List.forall_mem_cons, List.not_mem_nil, false_imp_iff, implies_true, and_true]
  exact ⟨labelled (by decide) (sized_of_length (by decide)), labelled (by decide) operator,
    labelled (by decide) session, labelled (by decide) round⟩

theorem commandFields_sized {command : WalletRound} (fits : command.Representable) :
    ∀ field ∈ commandFields command, FieldSized field := by
  have texts := fits.texts
  simp only [List.forall_mem_cons, List.not_mem_nil, false_imp_iff, implies_true, and_true]
    at texts
  obtain ⟨operation, fingerprint, operator, player, account, reference, session, round, game,
    version, hash, kind, currency⟩ := texts
  unfold commandFields
  simp only [List.forall_mem_cons, List.not_mem_nil, false_imp_iff, implies_true, and_true]
  exact ⟨labelled (by decide) (sized_of_length (by decide)),
    labelled (by decide) (sized_of_length (by decide)),
    labelled (by decide) (sized_of_length (by decide)), labelled (by decide) operation,
    labelled (by decide) fingerprint, labelled (by decide) operator, labelled (by decide) player,
    labelled (by decide) account, labelled (by decide) reference, labelled (by decide) session,
    labelled (by decide) round, labelled (by decide) game, labelled (by decide) version,
    labelled (by decide) hash, labelled (by decide) kind, labelled (by decide) currency,
    labelled (by decide) (sized_int fits.debitMinor),
    labelled (by decide) (sized_int fits.creditMinor)⟩

/-- The preimage of a fingerprint determines the round. -/
theorem fingerprintFields_inj {left right : SpinRequest} (leftFits : left.Representable)
    (rightFits : right.Representable)
    (same : writeFingerprintFields (fingerprintFields left) =
      writeFingerprintFields (fingerprintFields right)) : left.SameRound right := by
  have fields := writeFingerprintFields_inj (fingerprintFields_sized leftFits)
    (fingerprintFields_sized rightFits) same
  simp only [fingerprintFields, List.cons.injEq, Prod.mk.injEq, true_and, and_true] at fields
  obtain ⟨operator, session, round, game, version, hash, currency, kind, bet, revision⟩ := fields
  exact ⟨operator, session, round, game, version, hash, currency, kind, toString_int_inj bet,
    toString_nat_inj revision⟩

/-- The preimage of an operation determines its round. -/
theorem operationFields_inj {left right : SpinRequest} (leftFits : left.Representable)
    (rightFits : right.Representable)
    (same : writeFingerprintFields (operationFields left) =
      writeFingerprintFields (operationFields right)) : left.key = right.key := by
  have fields := writeFingerprintFields_inj (operationFields_sized leftFits)
    (operationFields_sized rightFits) same
  simp only [operationFields, List.cons.injEq, Prod.mk.injEq, true_and, and_true] at fields
  obtain ⟨operator, session, round⟩ := fields
  rw [SpinRequest.key, SpinRequest.key, operator, session, round]

/-- The preimage of a command determines the command. -/
theorem commandFields_inj {left right : WalletRound} (leftFits : left.Representable)
    (rightFits : right.Representable)
    (same : writeFingerprintFields (commandFields left) =
      writeFingerprintFields (commandFields right)) : left.SameCommand right := by
  have fields := writeFingerprintFields_inj (commandFields_sized leftFits)
    (commandFields_sized rightFits) same
  simp only [commandFields, List.cons.injEq, Prod.mk.injEq, true_and, and_true] at fields
  obtain ⟨operation, fingerprint, operator, player, account, reference, session, round, game,
    version, hash, kind, currency, debit, credit⟩ := fields
  exact ⟨operation, fingerprint, operator, player, account, reference, session, round, game,
    version, hash, kind, currency, toString_int_inj debit, toString_int_inj credit⟩

end SlotsGame.Rgs
