/-
# SlotsGame.Operator.Encoding -- what the signers write, the verifiers read

Base64 is read back byte by byte (`decodeCanonical_encode`), a number of seconds from its
decimal digits (`parseSeconds_toDigits`), and the parameters of a signature from the
profile that they were written in (`parseInputOf_format`).  The profile has no sign: an
instant before the Unix epoch is written with one, and is not read.
-/
import SlotsGame.Operator.Exchange
import SlotsGame.Theory.Json

namespace SlotsGame.Operator

open SlotsGame.Rgs SlotsGame.Text SlotsGame.Theory

set_option autoImplicit false

/-! ## Base64 -/

namespace Base64

/-- The digits of a text, before they become letters. -/
def sextets : List UInt8 → List Nat
  | first :: second :: third :: rest =>
      let value := first.toNat * 65536 + second.toNat * 256 + third.toNat
      value / 262144 :: value / 4096 % 64 :: value / 64 % 64 :: value % 64 :: sextets rest
  | [first, second] =>
      let value := first.toNat * 65536 + second.toNat * 256
      [value / 262144, value / 4096 % 64, value / 64 % 64]
  | [first] =>
      let value := first.toNat * 65536
      [value / 262144, value / 4096 % 64]
  | [] => []

/-- Each digit is a letter of its own, and none is the padding. -/
structure Sound (base : Base64) : Prop where
  letter : ∀ value < 64, base.digit value ≠ '='
  index : ∀ value < 64, base.alphabet.idxOf? (base.digit value) = some value

theorem stdEncoding_sound : stdEncoding.Sound where
  letter := by decide +kernel
  index := by decide +kernel

theorem rawURLEncoding_sound : rawURLEncoding.Sound where
  letter := by decide +kernel
  index := by decide +kernel

theorem byte_lt (byte : UInt8) : byte.toNat < 256 := UInt8.toNat_lt byte

theorem sextets_lt (bytes : List UInt8) : ∀ value ∈ sextets bytes, value < 64 := by
  induction bytes using sextets.induct with
  | case1 first second third rest ih =>
      have first := byte_lt first
      have second := byte_lt second
      have third := byte_lt third
      intro value member
      simp only [sextets, List.mem_cons] at member
      rcases member with rfl | rfl | rfl | rfl | later
      · omega
      · omega
      · omega
      · omega
      · exact ih value later
  | case2 first second =>
      have first := byte_lt first
      have second := byte_lt second
      intro value member
      simp only [sextets, List.mem_cons, List.not_mem_nil, or_false] at member
      rcases member with rfl | rfl | rfl
      · omega
      · omega
      · omega
  | case3 first =>
      have first := byte_lt first
      intro value member
      simp only [sextets, List.mem_cons, List.not_mem_nil, or_false] at member
      rcases member with rfl | rfl
      · omega
      · omega
  | case4 =>
      intro value member
      cases member

theorem decodeDigits_sextets (bytes : List UInt8) : decodeDigits (sextets bytes) = some bytes := by
  induction bytes using sextets.induct with
  | case1 first second third rest ih =>
      have firstByte := byte_lt first
      have secondByte := byte_lt second
      have thirdByte := byte_lt third
      have whole (value : Nat) : value / 262144 * 262144 + value / 4096 % 64 * 4096 +
          value / 64 % 64 * 64 + value % 64 = value := by omega
      rw [sextets, decodeDigits, ih, Option.map_some, whole]
      have high : (first.toNat * 65536 + second.toNat * 256 + third.toNat) / 65536 = first.toNat := by
        omega
      have middle : (first.toNat * 65536 + second.toNat * 256 + third.toNat) / 256 % 256 =
          second.toNat := by omega
      have low : (first.toNat * 65536 + second.toNat * 256 + third.toNat) % 256 = third.toNat := by
        omega
      rw [high, middle, low, UInt8.ofNat_toNat, UInt8.ofNat_toNat, UInt8.ofNat_toNat]
  | case2 first second =>
      have firstByte := byte_lt first
      have secondByte := byte_lt second
      have high : (first.toNat * 65536 + second.toNat * 256) / 262144 * 262144 +
          (first.toNat * 65536 + second.toNat * 256) / 4096 % 64 * 4096 +
          (first.toNat * 65536 + second.toNat * 256) / 64 % 64 * 64 =
            first.toNat * 65536 + second.toNat * 256 := by omega
      have head : (first.toNat * 65536 + second.toNat * 256) / 65536 = first.toNat := by omega
      have tail : (first.toNat * 65536 + second.toNat * 256) / 256 % 256 = second.toNat := by omega
      rw [sextets, decodeDigits, high, head, tail, UInt8.ofNat_toNat, UInt8.ofNat_toNat]
  | case3 first =>
      have firstByte := byte_lt first
      have head : (first.toNat * 65536 / 262144 * 262144 + first.toNat * 65536 / 4096 % 64 * 4096) /
          65536 = first.toNat := by omega
      rw [sextets, decodeDigits, head, UInt8.ofNat_toNat]
  | case4 => rfl

variable {base : Base64}

/-- A text is its digits and the padding. -/
theorem encode_eq (bytes : List UInt8) :
    ∃ count, base.encode bytes = (sextets bytes).map base.digit ++ base.padding count := by
  induction bytes using sextets.induct with
  | case1 first second third rest ih =>
      obtain ⟨count, same⟩ := ih
      refine ⟨count, ?_⟩
      rw [encode, sextets, same]
      rfl
  | case2 first second => exact ⟨1, rfl⟩
  | case3 first => exact ⟨2, rfl⟩
  | case4 =>
      refine ⟨0, ?_⟩
      show [] = base.padding 0
      unfold padding
      split <;> rfl

/-- The letters of digits are read as the digits. -/
theorem Sound.mapM_digits (sound : base.Sound) {values : List Nat}
    (small : ∀ value ∈ values, value < 64) :
    (values.map base.digit).mapM base.alphabet.idxOf? = some values := by
  induction values with
  | nil => rfl
  | cons value rest ih =>
      rw [List.map_cons, List.mapM_cons, sound.index value (small value List.mem_cons_self),
        ih fun later member => small later (List.mem_cons_of_mem value member)]
      rfl

theorem padding_mem {count : Nat} {c : Char} (member : c ∈ base.padding count) : c = '=' := by
  unfold padding at member
  split at member
  next => exact List.eq_of_mem_replicate member
  next => cases member

/-- A letter of a text is that of a digit, or padding. -/
theorem encode_mem {bytes : List UInt8} {c : Char} (member : c ∈ base.encode bytes) :
    c = '=' ∨ ∃ value < 64, c = base.digit value := by
  obtain ⟨count, same⟩ : ∃ count, base.encode bytes = _ ++ base.padding count := encode_eq bytes
  rw [same] at member
  rcases List.mem_append.mp member with digit | pad
  · obtain ⟨value, held, rfl⟩ := List.mem_map.mp digit
    exact .inr ⟨value, sextets_lt bytes value held, rfl⟩
  · exact .inl (padding_mem pad)

theorem Sound.filter_encode (sound : base.Sound) (bytes : List UInt8) :
    (base.encode bytes).filter (· ≠ '=') = (sextets bytes).map base.digit := by
  obtain ⟨count, same⟩ : ∃ count, base.encode bytes = _ ++ base.padding count := encode_eq bytes
  have letters : ∀ c ∈ (sextets bytes).map base.digit, (decide (c ≠ '=')) = true := by
    intro c member
    obtain ⟨value, held, rfl⟩ := List.mem_map.mp member
    exact decide_eq_true (sound.letter value (sextets_lt bytes value held))
  have pads : ∀ c ∈ base.padding count, ¬ (decide (c ≠ '=')) = true := by
    intro c member
    rw [padding_mem member]
    decide
  rw [same, List.filter_append, List.filter_eq_self.mpr letters, List.filter_eq_nil_iff.mpr pads,
    List.append_nil]

/-- What was encoded is read back. -/
theorem Sound.decodeCanonical_encode (sound : base.Sound) (bytes : List UInt8) :
    base.decodeCanonical (String.ofList (base.encode bytes)) = some bytes := by
  unfold decodeCanonical
  rw [String.toList_ofList, sound.filter_encode, sound.mapM_digits (sextets_lt bytes)]
  simp only [Option.bind_some, decodeDigits_sextets, if_true]

end Base64

/-- A header that holds encoded bytes between its label and a colon. -/
theorem decodeFixedBase64_encode (label : String) {bytes : List UInt8} {size : Nat}
    (sized : bytes.length = size) :
    decodeFixedBase64 label (label ++ String.ofList (stdEncoding.encode bytes) ++ ":") size =
      .ok bytes := by
  have dropped : (label ++ String.ofList (stdEncoding.encode bytes) ++ ":").toList.dropPrefix?
      label.toList = some (stdEncoding.encode bytes ++ [':']) := by
    rw [List.dropPrefix?_eq_some_iff]
    refine ⟨label.toList, ?_, beq_self_eq_true _⟩
    rw [String.toList_append, String.toList_append, String.toList_ofList, List.append_assoc]
    rfl
  have cut : (stdEncoding.encode bytes ++ [':']).dropSuffix? [':'] =
      some (stdEncoding.encode bytes) :=
    List.dropSuffix?_eq_some_iff.mpr ⟨[':'], rfl, rfl⟩
  unfold decodeFixedBase64
  simp only [dropped, Option.bind_some, cut, Base64.stdEncoding_sound.decodeCanonical_encode,
    if_pos sized]

/-! ## Seconds -/

/-- A number is read from its digits, as far as the source can hold it. -/
theorem parseSeconds_toDigits (value : Nat) :
    parseSeconds (Nat.toDigits 10 value) = if value ≤ maxUnix then some value else none := by
  have read : (Nat.toDigits 10 value).foldl
      (fun value c => value * 10 + (c.toNat - '0'.toNat)) 0 = value := by
    have digits : Nat.ofDigitChars 10 (Nat.toDigits 10 value) 0 = value :=
      Nat.ofDigitChars_toDigits (by decide) (by decide)
    rw [Nat.ofDigitChars_eq_foldl] at digits
    simpa only [Nat.mul_comm] using digits
  have length : (Nat.toDigits 10 value).length ≤ 19 ↔ value < 10 ^ 19 :=
    Nat.length_toDigits_le_iff (by decide) (by decide)
  unfold parseSeconds
  simp only [read]
  by_cases fits : value < 10 ^ 19
  · rw [if_pos]
    rcases Nat.eq_zero_or_pos value with rfl | positive
    · exact .inl (Nat.toDigits_zero 10)
    · exact .inr ⟨toDigits_head positive, Nat.length_toDigits_pos, length.mpr fits⟩
  · rw [if_neg, if_neg]
    · unfold maxUnix
      omega
    · rintro (zero | ⟨_, _, short⟩)
      · exact fits (length.mp (by rw [zero]; decide))
      · exact fits (length.mp short)

/-! ## The profile -/

theorem dropPrefix?_append (front rest : List Char) :
    (front ++ rest).dropPrefix? front = some rest :=
  List.dropPrefix?_eq_some_iff.mpr ⟨front, rfl, beq_self_eq_true front⟩

theorem identifierPattern_chars {text : String} (valid : identifierPattern text = true) :
    ∀ c ∈ text.toList, identifierChar c = true := by
  unfold identifierPattern matchesPattern at valid
  split at valid
  next => cases valid
  next c cs same =>
    simp only [Bool.and_eq_true] at valid
    rw [same]
    intro other member
    rcases List.mem_cons.mp member with rfl | later
    · unfold identifierChar
      rw [valid.1.1.1]
      rfl
    · exact List.all_eq_true.mp valid.1.1.2 other later

/-- A number of seconds, written with a sign where it needs one. -/
theorem parseSeconds_toString (seconds : Int) (rest : List Char) {read : Nat} :
    parseSeconds (((toString seconds).toList ++ ';' :: rest).takeWhile Char.isDigit) = some read ↔
      seconds = read ∧ read ≤ maxUnix := by
  cases seconds with
  | ofNat n =>
      have text : (toString (Int.ofNat n)).toList = Nat.toDigits 10 n := Nat.toList_repr
      have digits : ∀ c ∈ Nat.toDigits 10 n, c.isDigit = true := fun _ member =>
        Nat.isDigit_of_mem_toDigits (by decide) (by decide) member
      rw [text, (takeWhile_stop digits (by decide)).1, parseSeconds_toDigits]
      constructor
      · intro same
        split at same
        next fits =>
          obtain rfl := Option.some.inj same
          exact ⟨rfl, fits⟩
        next => cases same
      · rintro ⟨same, fits⟩
        obtain rfl := Int.ofNat.inj same
        rw [if_pos fits]
  | negSucc n =>
      have text : (toString (Int.negSucc n)).toList = '-' :: Nat.toDigits 10 (n + 1) := by
        show ("-" ++ (n + 1).repr).toList = _
        rw [String.toList_append, Nat.toList_repr]
        rfl
      rw [text, List.cons_append, List.takeWhile_cons_of_neg (by decide)]
      constructor
      · intro same
        cases same
      · rintro ⟨same, _⟩
        cases same

theorem dropWhile_toString {seconds : Nat} (rest : List Char) :
    ((toString (seconds : Int)).toList ++ ';' :: rest).dropWhile Char.isDigit = ';' :: rest := by
  have text : (toString (seconds : Int)).toList = Nat.toDigits 10 seconds := Nat.toList_repr
  have digits : ∀ c ∈ Nat.toDigits 10 seconds, c.isDigit = true := fun _ member =>
    Nat.isDigit_of_mem_toDigits (by decide) (by decide) member
  rw [text]
  exact (takeWhile_stop digits (by decide)).2

/-- No line of the text ends before the text does. -/
def Unbroken (text : String) : Prop := ∀ c ∈ text.toList, lineBreak c = false

instance (text : String) : Decidable (Unbroken text) :=
  List.decidableBAll (fun c => lineBreak c = false) text.toList

theorem Unbroken.append {left right : String} (front : Unbroken left) (back : Unbroken right) :
    Unbroken (left ++ right) := by
  intro c member
  rw [String.toList_append, List.mem_append] at member
  rcases member with left | right
  · exact front c left
  · exact back c right

theorem Unbroken.identifier {text : String} (valid : identifierPattern text = true) :
    Unbroken text := by
  intro c member
  have char := identifierPattern_chars valid c member
  by_contra broken
  rw [Bool.not_eq_false, lineBreak, Bool.or_eq_true, beq_iff_eq, beq_iff_eq] at broken
  rcases broken with rfl | rfl
  · cases char
  · cases char

theorem Unbroken.seconds (value : Int) : Unbroken (toString value) := by
  have digits (n : Nat) : ∀ c ∈ Nat.toDigits 10 n, lineBreak c = false := by
    intro c member
    have digit := Nat.isDigit_of_mem_toDigits (by decide) (by decide) member
    by_contra broken
    rw [Bool.not_eq_false, lineBreak, Bool.or_eq_true, beq_iff_eq, beq_iff_eq] at broken
    rcases broken with rfl | rfl
    · cases digit
    · cases digit
  intro c member
  cases value with
  | ofNat n =>
      have member : c ∈ n.repr.toList := member
      rw [Nat.toList_repr] at member
      exact digits n c member
  | negSucc n =>
      have member : c ∈ ("-" ++ (n + 1).repr).toList := member
      rw [String.toList_append, Nat.toList_repr, List.mem_append] at member
      rcases member with sign | digit
      · rw [List.mem_singleton.mp sign]
        decide
      · exact digits (n + 1) c digit

theorem Unbroken.encode (bytes : List UInt8) :
    Unbroken (String.ofList (stdEncoding.encode bytes)) := by
  have letters : ∀ value < 64, lineBreak (stdEncoding.digit value) = false := by decide +kernel
  intro c member
  rw [String.toList_ofList] at member
  rcases Base64.encode_mem member with rfl | ⟨value, small, rfl⟩
  · decide
  · exact letters value small

/-- The profile is one line. -/
theorem Unbroken.format {components keyID : String} (listed : Unbroken components)
    (valid : identifierPattern keyID = true) (created expires : Int) :
    Unbroken (formatInputOf components created expires keyID) := by
  have label : Unbroken "sig1=" := by decide
  have createdLabel : Unbroken ";created=" := by decide
  have expiresLabel : Unbroken ";expires=" := by decide
  have keyLabel : Unbroken ";keyid=\"" := by decide
  have last : Unbroken "\";alg=\"ed25519\"" := by decide
  exact ((((((label.append listed).append createdLabel).append (.seconds created)).append
    expiresLabel).append (.seconds expires)).append keyLabel).append (.identifier valid) |>.append last

/-- The parameters are read from the profile that they were written in, if they were not
written with a sign. -/
theorem parseInputOf_format (components : String) {created expires : Int} {keyID : String}
    (valid : identifierPattern keyID = true) {createdRead expiresRead : Nat} {keyRead : String} :
    parseInputOf components (formatInputOf components created expires keyID) =
        .ok (createdRead, expiresRead, keyRead) ↔
      (created = createdRead ∧ createdRead ≤ maxUnix) ∧ (expires = expiresRead ∧ expiresRead ≤ maxUnix) ∧
        keyRead = keyID := by
  have text : (formatInputOf components created expires keyID).toList =
      "sig1=".toList ++ (components.toList ++ (";created=".toList ++ ((toString created).toList ++
        ';' :: ("expires=".toList ++ ((toString expires).toList ++
          ';' :: ("keyid=\"".toList ++ (keyID.toList ++ '"' :: ";alg=\"ed25519\"".toList))))))) := by
    simp only [formatInputOf, String.toList_append, List.append_assoc]
    rfl
  have stops : identifierChar '"' = false := by decide
  have keyRest := @takeWhile_stop identifierChar keyID.toList ";alg=\"ed25519\"".toList '"'
    (identifierPattern_chars valid) stops
  have expiresLabel (rest : List Char) : (';' :: ("expires=".toList ++ rest)).dropPrefix?
      ";expires=".toList = some rest := dropPrefix?_append ";expires=".toList rest
  have keyLabel (rest : List Char) : (';' :: ("keyid=\"".toList ++ rest)).dropPrefix?
      ";keyid=\"".toList = some rest := dropPrefix?_append ";keyid=\"".toList rest
  unfold parseInputOf
  rw [present_ok, text]
  simp only [dropPrefix?_append, Option.bind_eq_bind, Option.bind_some]
  rw [Option.bind_eq_some_iff]
  constructor
  · rintro ⟨createdSeconds, createdParsed, later⟩
    obtain ⟨rfl, createdFits⟩ := (parseSeconds_toString created _).mp createdParsed
    rw [dropWhile_toString, expiresLabel, Option.bind_some, Option.bind_eq_some_iff] at later
    obtain ⟨expiresSeconds, expiresParsed, later⟩ := later
    obtain ⟨rfl, expiresFits⟩ := (parseSeconds_toString expires _).mp expiresParsed
    rw [dropWhile_toString, keyLabel, Option.bind_some, keyRest.1, keyRest.2,
      String.ofList_toList] at later
    split at later
    next =>
      have same := Option.some.inj later
      simp only [Prod.mk.injEq] at same
      obtain ⟨rfl, rfl, rfl⟩ := same
      exact ⟨⟨rfl, createdFits⟩, ⟨rfl, expiresFits⟩, rfl⟩
    next => cases later
  · rintro ⟨⟨rfl, createdFits⟩, ⟨rfl, expiresFits⟩, rfl⟩
    refine ⟨createdRead, (parseSeconds_toString _ _).mpr ⟨rfl, createdFits⟩, ?_⟩
    rw [dropWhile_toString, expiresLabel, Option.bind_some, Option.bind_eq_some_iff]
    refine ⟨expiresRead, (parseSeconds_toString _ _).mpr ⟨rfl, expiresFits⟩, ?_⟩
    rw [dropWhile_toString, keyLabel, Option.bind_some, keyRest.1, keyRest.2, String.ofList_toList,
      if_pos ⟨valid, rfl⟩]

end SlotsGame.Operator
