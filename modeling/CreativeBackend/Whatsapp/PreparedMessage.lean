import CreativeBackend.Runtime.Uri
import CreativeBackend.Whatsapp.TicketRequests

/-!
# The prepared message

The message that `buildWhatsAppUrl` prepares names a registration and a request token. Both are
read back from the text that the URL encodes. A word is only looked for after a character that is
none of a word, so neither is found inside the other.
-/

namespace CreativeBackend

namespace WhatsappTicketRequestsService

/-- `[A-Z0-9_-]`. -/
def isUpperWord (c : Char) : Bool := c.isUpper || c.isDigit || c == '_' || c == '-'

/-- The text is the mark and then a number of characters of the class. -/
def isMarked (mark : String) (inClass : Char → Bool) (least most : Nat) (text : String) : Bool :=
  let run := text.toList.drop 4
  text.toList.take 4 == mark.toList && run.all inClass && decide (least ≤ run.length) &&
    decide (run.length ≤ most)

/-- `REG_[A-Z0-9_-]{1,60}`. -/
def isPublicId (text : String) : Bool := isMarked "REG_" isUpperWord 1 60 text

/-- `WTR_[A-Za-z0-9_-]{20,100}`. -/
def isTicketRequestToken (text : String) : Bool := isMarked "WTR_" isWord 20 100 text

def lineBreaks : List Char :=
  ['\n', '\r', Char.ofNat 11, Char.ofNat 12, Char.ofNat 133, Char.ofNat 8232, Char.ofNat 8233]

/-- What follows the message begins with a line break. -/
def startsLine (trailing : String) : Prop := ∀ c ∈ trailing.toList.head?, c ∈ lineBreaks

/-- The text that `buildWhatsAppUrl` encodes. -/
def preparedMessage (publicId ticketRequestToken : String) : String :=
  "\n".intercalate ["طلب بطاقة الدخول", "رقم التسجيل: " ++ publicId,
    "رمز الطلب: " ++ ticketRequestToken]

/-- The message before the space that precedes the public id. -/
def beforeId : List Char := "طلب بطاقة الدخول".toList ++ '\n' :: "رقم التسجيل:".toList

/-- The message from the public id up to the space that precedes the token. -/
def beforeToken : List Char := '\n' :: "رمز الطلب:".toList

theorem toList_lines (heading idLabel id tokenLabel token : String) :
    ("\n".intercalate [heading, idLabel ++ " " ++ id, tokenLabel ++ " " ++ token]).toList =
      heading.toList ++ '\n' :: idLabel.toList ++
        ' ' :: (id.toList ++ ('\n' :: tokenLabel.toList ++ ' ' :: token.toList)) := by
  have hspace : " ".toList = [' '] := rfl
  have hline : "\n".toList = ['\n'] := rfl
  rw [String.toList_intercalate, hline]
  simp [List.intercalate_cons_cons, hspace]

theorem toList_preparedMessage (publicId token : String) :
    (preparedMessage publicId token).toList =
      beforeId ++ ' ' :: (publicId.toList ++ (beforeToken ++ ' ' :: token.toList)) := by
  have hid : "رقم التسجيل:" ++ " " = "رقم التسجيل: " := by simp
  have htoken : "رمز الطلب:" ++ " " = "رمز الطلب: " := by simp
  rw [preparedMessage, ← hid, ← htoken]
  exact toList_lines _ _ _ _ _

/-! ## The first word -/

section FirstWord

variable {isMark : List Char → Bool} {least most : Nat}

/-- No word is looked for in the text: what follows a character that is none of a word is not what
a mark begins with. -/
def quiet (opens : Char → Bool) : List Char → Bool
  | [] => true
  | [_] => true
  | c :: d :: rest => (isWord c || !opens d) && quiet opens (d :: rest)

/-- Every mark begins with one of the characters. -/
def MarkOpens (isMark : List Char → Bool) (opens : Char → Bool) : Prop :=
  ∀ cs, isMark (cs.take 4) = true → ∃ d rest, cs = d :: rest ∧ opens d = true

theorem wordAt_of_not_opens {opens : Char → Bool} (hmark : MarkOpens isMark opens) {d : Char}
    (hd : opens d = false) (rest : List Char) : wordAt isMark least most (d :: rest) = none := by
  cases hm : isMark ((d :: rest).take 4) with
  | false => rw [wordAt, hm, Bool.false_and, Bool.false_and, if_neg Bool.false_ne_true]
  | true =>
      obtain ⟨e, rest', heq, he⟩ := hmark _ hm
      rw [← (List.cons.inj heq).1, hd] at he
      cases he

theorem wordAfter_of_quiet {opens : Char → Bool} (hmark : MarkOpens isMark opens)
    {before : List Char} {c : Char} (h : quiet opens (before ++ [c]) = true) (rest : List Char) :
    wordAfter isMark least most (before ++ c :: rest) =
      wordAfter isMark least most (c :: rest) := by
  induction before with
  | nil => rfl
  | cons x before ih =>
      obtain ⟨d, tail, htail⟩ : ∃ d tail, before ++ [c] = d :: tail := by
        cases before with
        | nil => exact ⟨c, [], rfl⟩
        | cons y before => exact ⟨y, before ++ [c], rfl⟩
      rw [List.cons_append, htail, quiet, Bool.and_eq_true, Bool.or_eq_true,
        Bool.not_eq_true'] at h
      have hnext : before ++ c :: rest = d :: (tail ++ rest) := by
        rw [← List.cons_append, ← htail, List.append_assoc]
        rfl
      have hnone : (if isWord x = true then none else
          wordAt isMark least most (before ++ c :: rest)) = none := by
        split
        · rfl
        · next hx =>
            rw [hnext]
            exact wordAt_of_not_opens hmark (h.1.resolve_left hx) _
      rw [List.cons_append, wordAfter, hnone]
      rw [htail] at ih
      exact ih h.2

/-- No word begins inside a word. -/
theorem wordAfter_of_words {word : List Char} (h : word.all isWord = true) (rest : List Char) :
    wordAfter isMark least most (word ++ rest) = wordAfter isMark least most rest := by
  induction word with
  | nil => rfl
  | cons c word ih =>
      rw [List.all_cons, Bool.and_eq_true] at h
      rw [List.cons_append, wordAfter, if_pos h.1, ih h.2]
      rfl

/-- A marked text that ends where the class ends is read as a whole. -/
theorem wordAt_of_marked {mark text : String} {inClass : Char → Bool}
    (hclass : ∀ c, inClass c = true → isWord c = true)
    (hlength : mark.toList.length = 4) (hmark : isMark mark.toList = true)
    (htext : isMarked mark inClass least most text = true)
    {rest : List Char} (hrest : ∀ c ∈ rest.head?, isWord c = false) :
    wordAt isMark least most (text.toList ++ rest) = some text.toList := by
  simp only [isMarked, Bool.and_eq_true, beq_iff_eq, decide_eq_true_eq] at htext
  obtain ⟨⟨⟨htake, hall⟩, hleast⟩, hmost⟩ := htext
  have hfour : 4 ≤ text.toList.length := by
    have hmin := congrArg List.length htake
    rw [List.length_take, hlength] at hmin
    omega
  have hrun : ((text.toList ++ rest).drop 4).takeWhile isWord = text.toList.drop 4 := by
    have hwords : ∀ c ∈ text.toList.drop 4, isWord c = true := fun c hc =>
      hclass c (List.all_eq_true.mp hall c hc)
    have hstop : rest.takeWhile isWord = [] := by
      cases rest with
      | nil => rfl
      | cons c rest => rw [List.takeWhile_cons, hrest c rfl]; rfl
    rw [List.drop_append_of_le_length hfour, List.takeWhile_append_of_pos hwords, hstop,
      List.append_nil]
  have hprefix : (text.toList ++ rest).take 4 = mark.toList := by
    rw [List.take_append_of_le_length hfour, htake]
  rw [wordAt, hrun, hprefix, hmark, decide_eq_true hleast, decide_eq_true hmost]
  simp only [Bool.and_self, if_true]
  rw [← htake, List.take_append_drop]

end FirstWord

/-! ## Reading the message back -/

theorem buildWhatsAppUrl_of_phone {c : Config} (h : normalizePhone c.requestPhone ≠ "")
    (publicId token : String) :
    buildWhatsAppUrl c publicId token =
      .ok ("https://wa.me/" ++ normalizePhone c.requestPhone ++ "?text=" ++
        c.encodeURIComponent (preparedMessage publicId token)) := by
  rw [buildWhatsAppUrl, if_neg h]
  rfl

theorem isWord_of_isUpperWord {c : Char} (h : isUpperWord c = true) : isWord c = true := by
  delta isUpperWord at h
  delta isWord Char.isAlphanum Char.isAlpha
  simp only [Bool.or_eq_true] at h ⊢
  tauto

theorem toUpper_of_isUpperWord {c : Char} (h : isUpperWord c = true) : c.toUpper = c := by
  apply dif_neg
  rintro ⟨hlow, -⟩
  rw [UInt32.le_iff_toNat_le] at hlow
  have hlow' : 97 ≤ c.val.toNat := hlow
  delta isUpperWord Char.isUpper Char.isDigit at h
  simp only [Bool.or_eq_true, Bool.and_eq_true, decide_eq_true_eq, beq_iff_eq, ge_iff_le,
    UInt32.le_iff_toNat_le] at h
  rcases h with ((⟨-, hup⟩ | ⟨-, hdigit⟩) | rfl) | rfl
  · have hup' : c.val.toNat ≤ 90 := hup
    omega
  · have hdigit' : c.val.toNat ≤ 57 := hdigit
    omega
  · exact absurd hlow' (by decide)
  · exact absurd hlow' (by decide)

theorem isWord_of_lineBreak {c : Char} (h : c ∈ lineBreaks) : isWord c = false := by
  have hall : lineBreaks.all (fun c => !isWord c) = true := by decide
  simpa using List.all_eq_true.mp hall c h

theorem toList_of_isMarked {mark text : String} {inClass : Char → Bool} {least most : Nat}
    (h : isMarked mark inClass least most text = true) :
    ∃ run, text.toList = mark.toList ++ run ∧ ∀ c ∈ run, inClass c = true := by
  simp only [isMarked, Bool.and_eq_true, beq_iff_eq] at h
  obtain ⟨⟨⟨htake, hall⟩, -⟩, -⟩ := h
  refine ⟨text.toList.drop 4, ?_, List.all_eq_true.mp hall⟩
  rw [← htake, List.take_append_drop]

theorem isUpperWord_of_isPublicId {publicId : String} (h : isPublicId publicId = true) :
    ∀ c ∈ publicId.toList, isUpperWord c = true := by
  obtain ⟨run, htext, hrun⟩ := toList_of_isMarked h
  have hmark : ∀ c ∈ "REG_".toList, isUpperWord c = true :=
    List.all_eq_true.mp (by decide)
  intro c hc
  rw [htext, List.mem_append] at hc
  exact hc.elim (hmark c) (hrun c)

/-- What `publicIdPattern` begins with, in either case. -/
def isReg (cs : List Char) : Bool := cs.map Char.toUpper == "REG_".toList

def isWtr (cs : List Char) : Bool := cs == "WTR_".toList

theorem markOpens_isReg : MarkOpens isReg fun c => c.toUpper == 'R' := by
  intro cs h
  cases cs with
  | nil => exact absurd h (by decide)
  | cons c rest =>
      rw [isReg, beq_iff_eq] at h
      exact ⟨c, rest, rfl, beq_iff_eq.mpr (List.cons.inj h).1⟩

theorem markOpens_isWtr : MarkOpens isWtr fun c => c == 'W' := by
  intro cs h
  cases cs with
  | nil => exact absurd h (by decide)
  | cons c rest =>
      rw [isWtr, beq_iff_eq] at h
      exact ⟨c, rest, rfl, beq_iff_eq.mpr (List.cons.inj h).1⟩

/-- The text of the message, up to the token. -/
theorem toList_message (publicId token trailing : String) :
    (preparedMessage publicId token ++ trailing).toList =
      beforeId ++ ' ' ::
        (publicId.toList ++ (beforeToken ++ ' ' :: (token.toList ++ trailing.toList))) := by
  rw [String.toList_append, toList_preparedMessage]
  simp only [List.append_assoc, List.cons_append]

/-- The search passes over the Arabic text before the public id. -/
theorem firstWord_message {isMark : List Char → Bool} {opens : Char → Bool} {least most : Nat}
    (hmark : MarkOpens isMark opens) (hquiet : quiet opens (beforeId ++ [' ']) = true)
    (hstart : opens 'ط' = false) (publicId token trailing : String) :
    firstWord isMark least most (preparedMessage publicId token ++ trailing) =
      (wordAt isMark least most (publicId.toList ++
          (beforeToken ++ ' ' :: (token.toList ++ trailing.toList))) <|>
        wordAfter isMark least most (publicId.toList ++
          (beforeToken ++ ' ' :: (token.toList ++ trailing.toList)))).map String.ofList := by
  obtain ⟨tail, htail⟩ : ∃ tail, beforeId = 'ط' :: tail := ⟨_, rfl⟩
  have hnone : wordAt isMark least most (preparedMessage publicId token ++ trailing).toList =
      none := by
    rw [toList_message, htail]
    exact wordAt_of_not_opens hmark hstart _
  have hspace : ¬ isWord ' ' = true := by decide
  rw [firstWord, hnone, toList_message, wordAfter_of_quiet hmark hquiet, wordAfter, if_neg hspace]
  rfl

theorem extractPublicId_preparedMessage {publicId : String} (hid : isPublicId publicId = true)
    (token trailing : String) :
    extractPublicId (preparedMessage publicId token ++ trailing) = some publicId := by
  have hbreak : ∀ c ∈ (beforeToken ++ ' ' :: (token.toList ++ trailing.toList)).head?,
      isWord c = false := by
    intro c hc
    cases hc
    decide
  have hmark : isReg "REG_".toList = true := rfl
  have hword := wordAt_of_marked (fun _ => isWord_of_isUpperWord) rfl hmark hid hbreak
  have hfirst : firstWord isReg 1 60 (preparedMessage publicId token ++ trailing) =
      some publicId := by
    rw [firstWord_message markOpens_isReg (by decide +kernel) (by decide), hword]
    exact congrArg some String.ofList_toList
  have hupper : publicId.toList.map Char.toUpper = publicId.toList := by
    nth_rewrite 2 [← List.map_id publicId.toList]
    apply List.map_congr_left
    exact fun c hc => toUpper_of_isUpperWord (isUpperWord_of_isPublicId hid c hc)
  have hextract : extractPublicId (preparedMessage publicId token ++ trailing) =
      (firstWord isReg 1 60 (preparedMessage publicId token ++ trailing)).map fun word =>
        String.ofList (word.toList.map Char.toUpper) := rfl
  rw [hextract, hfirst, Option.map_some, hupper, String.ofList_toList]

theorem extractTicketRequestToken_preparedMessage {publicId token trailing : String}
    (hid : isPublicId publicId = true) (htoken : isTicketRequestToken token = true)
    (htrailing : startsLine trailing) :
    extractTicketRequestToken (preparedMessage publicId token ++ trailing) = some token := by
  have hend : ∀ c ∈ trailing.toList.head?, isWord c = false := fun c hc =>
    isWord_of_lineBreak (htrailing c hc)
  have hmark : isWtr "WTR_".toList = true := rfl
  have hword := wordAt_of_marked (fun _ => id) rfl hmark htoken hend
  have hwords : publicId.toList.all isWord = true := List.all_eq_true.mpr fun c hc =>
    isWord_of_isUpperWord (isUpperWord_of_isPublicId hid c hc)
  have hnone : ∀ rest, wordAt isWtr 20 100 (publicId.toList ++ rest) = none := by
    obtain ⟨run, htext, -⟩ := toList_of_isMarked hid
    intro rest
    rw [htext, List.append_assoc]
    exact wordAt_of_not_opens markOpens_isWtr (by decide : ('R' == 'W') = false) _
  have hspace : ¬ isWord ' ' = true := by decide
  have hfirst : firstWord isWtr 20 100 (preparedMessage publicId token ++ trailing) =
      some token := by
    rw [firstWord_message markOpens_isWtr (by decide +kernel) (by decide), hnone,
      wordAfter_of_words hwords, wordAfter_of_quiet markOpens_isWtr (by decide +kernel), wordAfter,
      if_neg hspace, hword]
    exact congrArg some String.ofList_toList
  exact hfirst

end WhatsappTicketRequestsService

open WhatsappTicketRequestsService

/-- The text that the prepared URL encodes names the public id and the token, whatever is written
after it on further lines. -/
theorem prepared_message_parses (cfg : WhatsappTicketRequestsService.Config)
    (hencode : cfg.encodeURIComponent = Uri.encodeURIComponent)
    {publicId token url : String} (hid : isPublicId publicId = true)
    (htoken : isTicketRequestToken token = true) (hurl : buildWhatsAppUrl cfg publicId token = .ok url)
    (trailing : String) (htrailing : startsLine trailing) :
    ∃ text message,
      url = "https://wa.me/" ++ normalizePhone cfg.requestPhone ++ "?text=" ++ text ∧
      Uri.decodeURIComponent text = some message ∧
      extractPublicId (message ++ trailing) = some publicId ∧
      extractTicketRequestToken (message ++ trailing) = some token := by
  by_cases hphone : normalizePhone cfg.requestPhone = ""
  · rw [buildWhatsAppUrl, if_pos hphone] at hurl
    cases hurl
  · rw [buildWhatsAppUrl_of_phone hphone] at hurl
    cases hurl
    refine ⟨_, preparedMessage publicId token, rfl, ?_, ?_, ?_⟩
    · rw [hencode]
      exact Uri.decodeURIComponent_encodeURIComponent _
    · exact extractPublicId_preparedMessage hid token trailing
    · exact extractTicketRequestToken_preparedMessage hid htoken htrailing

/-- A public id and a token that contain the mark of each other. -/
theorem crossed_marks_parse :
    ∃ url text message,
      buildWhatsAppUrl { sampleConfig with encodeURIComponent := Uri.encodeURIComponent }
        "REG_-WTR_0" "WTR_-REG_0123456789abcdef" = .ok url ∧
      url = "https://wa.me/" ++ normalizePhone "+100" ++ "?text=" ++ text ∧
      Uri.decodeURIComponent text = some message ∧
      extractPublicId (message ++ "\nREG_1") = some "REG_-WTR_0" ∧
      extractTicketRequestToken (message ++ "\nREG_1") = some "WTR_-REG_0123456789abcdef" := by
  have hphone : normalizePhone "+100" ≠ "" := by decide +kernel
  have hurl := buildWhatsAppUrl_of_phone
    (c := { sampleConfig with encodeURIComponent := Uri.encodeURIComponent }) hphone "REG_-WTR_0"
    "WTR_-REG_0123456789abcdef"
  have hid : isPublicId "REG_-WTR_0" = true := by decide
  have htoken : isTicketRequestToken "WTR_-REG_0123456789abcdef" = true := by decide
  have htrailing : startsLine "\nREG_1" := by
    intro c hc
    cases hc
    exact List.mem_cons_self
  obtain ⟨text, message, hparts⟩ := prepared_message_parses
    { sampleConfig with encodeURIComponent := Uri.encodeURIComponent } rfl hid htoken hurl "\nREG_1" htrailing
  exact ⟨_, text, message, hurl, hparts⟩

end CreativeBackend
