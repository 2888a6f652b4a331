import CreativeBackend.Runtime.Text

/-!
# Incoming WhatsApp messages

What the webhook of the WhatsApp provider reads from a payload: the delivery id, the text,
the sender, the event type, and the registration and the request token that a text names.

## Implementation notes

The texts that are compared after `toLowerCase` are ASCII, so it lowers ASCII letters only.
The regular expressions end in a negative lookahead on their own class, so a match takes a
whole run of that class.
-/

namespace CreativeBackend

namespace WhatsappTicketRequestsService

/-- The configuration that the service reads, and the reader of URLs. -/
structure Config where
  webhookSecret : Option String
  requestPhone : String
  expiresHours : Int
  publicBaseUrl : String
  encodeURIComponent : String → String
  /-- The protocol, the host name and the text of `new URL(value)`. -/
  parseUrl : String → Option (String × String × String)

/-! ## Phones and secrets -/

def jidSuffixes : List (List Char) := ["@s.whatsapp.net".toList, "@c.us".toList]

/-- Remove `/@(?:s\.whatsapp\.net|c\.us)$/i`. -/
def stripJid : List Char → List Char
  | [] => []
  | c :: rest =>
      if (c :: rest).map Char.toLower ∈ jidSuffixes then [] else c :: stripJid rest

def normalizePhone (value : String) : String :=
  String.ofList ((stripJid value.toList).filter Char.isDigit)

/-- Two buffers of equal length and content hold one text. -/
def safeSecretEquals (provided expected : String) : Bool := provided == expected

/-- A header that was sent once or several times. -/
inductive Header where
  | one (value : String)
  | many (values : List String)

def getHeader (headers : List (String × Header)) (key : String) : Option String :=
  match headers.lookup key with
  | some (.one value) => some value
  | some (.many values) => values.head?
  | none => none

/-- `/^Bearer\s+(.+)$/i`, trimmed. An empty token is as good as none. -/
def getBearerToken (value : Option String) : Option String :=
  let cs := (value.getD "").toList
  let rest := cs.drop 6
  let body := rest.dropWhile isTrimmed
  if (cs.take 6).map Char.toLower = "bearer".toList ∧ body ≠ [] ∧ body.length < rest.length ∧
      body.all (fun c => c ≠ '\n' ∧ c ≠ '\r' ∧ c.toNat ≠ 8232 ∧ c.toNat ≠ 8233) = true then
    some (trim (String.ofList body))
  else none

/-- The secret that a request brings. -/
def providedSecret (headers : List (String × Header)) : Option String :=
  getHeader headers "x-webhook-signature" <|> getHeader headers "x-wasender-webhook-secret" <|>
    getHeader headers "x-webhook-secret" <|> getBearerToken (getHeader headers "authorization")

/-! ## The fields of a message -/

def readPath (payload : Json) (path : String) : Option Json :=
  (splitDots path).foldl (fun current part => current.bind (·.field? part)) (some payload)

def firstString (payload : Json) (paths : List String) : Option String :=
  paths.findSome? fun path =>
    match readPath payload path with
    | some (.str value) => if trim value = "" then none else some (trim value)
    | _ => none

def firstBoolean (payload : Json) (paths : List String) : Option Bool :=
  paths.findSome? fun path =>
    match readPath payload path with
    | some (.bool value) => some value
    | _ => none

structure IncomingMessage where
  deliveryId : String
  eventType : String
  text : String
  senderPhone : String
  outgoing : Bool
  group : Bool
  deriving DecidableEq, Repr

def hashPayload (rt : Runtime) (payload : Json) : String := rt.sha256Hex (rt.jsonStringify payload)

def extractDeliveryId (rt : Runtime) (payload : Json) : String :=
  (firstString payload
    ["data.messages.key.id", "id", "messageId", "message_id", "webhookId", "webhook_id", "data.id",
      "data.messageId", "data.message_id", "data.key.id"]).getD ("hash:" ++ hashPayload rt payload)

def extractText (payload : Json) : String :=
  (firstString payload
    ["data.messages.messageBody", "data.messages.message.conversation",
      "data.messages.message.extendedTextMessage.text",
      "data.messages.message.imageMessage.caption", "data.messages.message.videoMessage.caption",
      "data.messages.message.documentMessage.caption", "text", "body", "message", "caption",
      "data.text", "data.body", "data.message", "data.caption",
      "data.message.conversation"]).getD ""

def extractSenderPhone (payload : Json) : String :=
  (firstString payload
    ["data.messages.key.cleanedSenderPn", "data.messages.key.senderPn",
      "data.messages.key.remoteJid", "from", "sender", "senderPhone", "phone", "remoteJid",
      "data.from", "data.sender", "data.senderPhone", "data.phone", "data.remoteJid",
      "data.key.remoteJid"]).getD ""

def extractEventType (payload : Json) : String :=
  ((firstString payload
    ["event", "eventType", "event_type", "type", "data.event", "data.eventType", "data.event_type",
      "data.type"]).map toLowerCase).getD ""

def extractOutgoing (payload : Json) : Bool :=
  firstBoolean payload
      ["data.messages.key.fromMe", "fromMe", "isFromMe", "outgoing", "isOutgoing", "data.fromMe",
        "data.isFromMe", "data.outgoing", "data.isOutgoing", "data.key.fromMe"] == some true ||
    (firstString payload ["direction", "data.direction"]).map toLowerCase == some "outgoing"

def extractGroup (payload : Json) : Bool :=
  let remoteJid := (firstString payload
    ["data.messages.key.remoteJid", "remoteJid", "chatId", "data.remoteJid", "data.chatId",
      "data.key.remoteJid"]).getD (extractSenderPhone payload)
  firstBoolean payload
      ["data.messages.isGroup", "data.messages.key.isGroup", "isGroup", "data.isGroup"] ==
        some true ||
    includes (toLowerCase remoteJid) "@g.us"

def extractIncomingMessage (rt : Runtime) (payload : Json) : IncomingMessage where
  deliveryId := extractDeliveryId rt payload
  eventType := extractEventType payload
  text := extractText payload
  senderPhone := extractSenderPhone payload
  outgoing := extractOutgoing payload
  group := extractGroup payload

/-! ## What a text names -/

/-- `[A-Za-z0-9_-]`. -/
def isWord (c : Char) : Bool := c.isAlphanum || c == '_' || c == '-'

/-- A mark, then a whole run of word characters of a length in the range. -/
def wordAt (isMark : List Char → Bool) (least most : Nat) (cs : List Char) : Option (List Char) :=
  let run := (cs.drop 4).takeWhile isWord
  if isMark (cs.take 4) && decide (least ≤ run.length) && decide (run.length ≤ most) then
    some (cs.take 4 ++ run)
  else none

/-- The first such word after a character that is none of a word. -/
def wordAfter (isMark : List Char → Bool) (least most : Nat) : List Char → Option (List Char)
  | [] => none
  | c :: rest =>
      (if isWord c then none else wordAt isMark least most rest) <|>
        wordAfter isMark least most rest

def firstWord (isMark : List Char → Bool) (least most : Nat) (text : String) : Option String :=
  (wordAt isMark least most text.toList <|> wordAfter isMark least most text.toList).map
    String.ofList

/-- `publicIdPattern`, then `toUpperCase`. -/
def extractPublicId (text : String) : Option String :=
  (firstWord (fun cs => cs.map Char.toUpper == "REG_".toList) 1 60 text).map fun word =>
    String.ofList (word.toList.map Char.toUpper)

/-- `ticketRequestTokenPattern`. -/
def extractTicketRequestToken (text : String) : Option String :=
  firstWord (· == "WTR_".toList) 20 100 text

/-! ## Stability of the normalised phone -/

theorem head?_of_mem_jidSuffixes : ∀ cs ∈ jidSuffixes, cs.head? = some '@' := by decide

theorem toLower_ne_at {c : Char} (h : c.isDigit = true) : c.toLower ≠ '@' := by
  have hlower : c.toLower = c := by
    simp only [Char.isDigit, Bool.and_eq_true, decide_eq_true_eq, UInt32.le_iff_toNat_le] at h
    have hbound : c.val.toNat ≤ 57 := h.2
    apply dif_neg
    rintro ⟨hup, -⟩
    rw [ge_iff_le, UInt32.le_iff_toNat_le] at hup
    have hup' : 65 ≤ c.val.toNat := hup
    omega
  intro hat
  rw [hlower] at hat
  subst hat
  cases h

theorem stripJid_of_digits {cs : List Char} (h : ∀ c ∈ cs, c.isDigit = true) : stripJid cs = cs := by
  induction cs with
  | nil => rfl
  | cons c rest ih =>
      have hno : (c :: rest).map Char.toLower ∉ jidSuffixes := by
        intro hmem
        have hhead := head?_of_mem_jidSuffixes _ hmem
        simp only [List.map_cons, List.head?_cons, Option.some.injEq] at hhead
        exact toLower_ne_at (h c List.mem_cons_self) hhead
      rw [stripJid, if_neg hno, ih fun d hd => h d (List.mem_cons_of_mem c hd)]

theorem isDigit_of_mem_normalizePhone {value : String} {c : Char}
    (h : c ∈ (normalizePhone value).toList) : c.isDigit = true := by
  simp only [normalizePhone, String.toList_ofList] at h
  exact (List.mem_filter.mp h).2

/-- Normalising twice is normalising once. -/
theorem normalizePhone_normalizePhone (value : String) :
    normalizePhone (normalizePhone value) = normalizePhone value := by
  have hdigits : ∀ c ∈ (normalizePhone value).toList, c.isDigit = true := fun _ =>
    isDigit_of_mem_normalizePhone
  rw [normalizePhone, stripJid_of_digits hdigits, List.filter_eq_self.mpr hdigits,
    String.ofList_toList]

end WhatsappTicketRequestsService

end CreativeBackend
