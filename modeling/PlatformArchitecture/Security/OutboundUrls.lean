import PlatformArchitecture.Foundations.Checks
import PlatformArchitecture.PolicyEngine.CapabilitySpellings

/-!
# Outbound URLs

Two functions let a request go out only to an allow-listed host that is not a
private address.  They look for private addresses in the text of the host.  The
parser writes an IPv6 address in brackets, which neither of them looks for, and
one of them knows fewer ranges than the other.
-/

namespace PlatformArchitecture.Security

open PlatformArchitecture.Foundations
open PlatformArchitecture.PolicyEngine

/-! ## Parsed URLs -/

def lowerCase (chars : List Char) : List Char :=
  chars.flatMap toLowerCase

/-- A domain, which the parser has put in ASCII and in lower case. -/
structure Domain where
  text : List Char
  ascii : ∀ c ∈ text, c.toNat < 128 ∧ c.toLower = c

inductive Host where
  | domain (name : Domain)
  | ipv4 (first second third fourth : UInt8)
  | ipv6 (pieces : Vector UInt16 8)

/-- What `new URL(raw)` makes of a text: a URL with a host, or one of another
protocol. -/
inductive ParsedUrl where
  | https (host : Host) (href : String)
  | other (protocol href : String)

/-- An error and its code. -/
structure OutboundError where
  code : String
  message : String

def decimal (value : UInt8) : List Char :=
  Nat.toDigits 10 value.toNat

/-- Four numbers with dots between them. -/
def dotted (first second third fourth : UInt8) : List Char :=
  decimal first ++ '.' :: (decimal second ++ '.' :: (decimal third ++ '.' :: decimal fourth))

/-- `url.hostname`, given what the parser writes for an IPv6 address between the
brackets. -/
def Host.hostname (ipv6Text : Vector UInt16 8 → List Char) : Host → List Char
  | .domain name => name.text
  | .ipv4 first second third fourth => dotted first second third fourth
  | .ipv6 pieces => '[' :: (ipv6Text pieces ++ [']'])

/-! ## The two functions -/

def invalidUrl : OutboundError :=
  ⟨"ERR_INVALID_URL", "Invalid URL"⟩

def unsafeUrl : OutboundError :=
  ⟨"UNSAFE_OUTBOUND_URL", "Only HTTPS outbound URLs are allowed"⟩

def destinationForbidden : OutboundError :=
  ⟨"SSRF_DESTINATION_FORBIDDEN", "Private/link-local destinations are forbidden"⟩

/-- The text begins with one of the words. -/
def startsWithAny (words : List (List Char)) (chars : List Char) : Bool :=
  words.any fun word => word.isPrefixOf chars

/-- `^127\.`, `^0\.`, `^10\.`, `^192\.168\.` and `^169\.254\.`. -/
def privateStarts : List (List Char) :=
  ["127.".toList, "0.".toList, "10.".toList, "192.168.".toList, "169.254.".toList]

/- The parser, and what it writes for an IPv6 address. -/
variable (parse : String → Option ParsedUrl) (ipv6Text : Vector UInt16 8 → List Char)

namespace Section20

/-- `/^172\.(\d+)\./`, with a number from 16 to 31. -/
def privateSecondOctet (h : List Char) : Bool :=
  let digits := (h.drop 4).takeWhile Char.isDigit
  let octet := Nat.ofDigitChars 10 digits 0
  "172.".toList.isPrefixOf h && !digits.isEmpty &&
    decide ((h.drop (4 + digits.length)).head? = some '.') && decide (16 ≤ octet ∧ octet ≤ 31)

def forbiddenHostname (host : List Char) : Bool :=
  let h := lowerCase host
  decide (h = "localhost".toList) || ".local".toList.isSuffixOf h ||
    startsWithAny privateStarts h || privateSecondOctet h || decide (h = "::1".toList) ||
    startsWithAny ["fc".toList, "fd".toList, "fe80:".toList] h

/-- An allowed host, or a text that ends with one after a dot. -/
def allowListed (allowedHosts : List String) (host : List Char) : Bool :=
  (allowedHosts.map fun x => lowerCase x.toList).any fun x =>
    decide (host = x) || ('.' :: x).isSuffixOf host

def assertSafeOutboundUrl (raw : String) (allowedHosts : List String) :
    Except OutboundError ParsedUrl :=
  match parse raw with
  | none => .error invalidUrl
  | some (.other _ _) => .error unsafeUrl
  | some (.https parsed href) => do
      let host := lowerCase (parsed.hostname ipv6Text)
      throwIf (forbiddenHostname host = true) destinationForbidden
      throwIf (allowListed allowedHosts host = false)
        ⟨"OUTBOUND_HOST_NOT_ALLOWED", "Outbound host is not allow-listed"⟩
      return .https parsed href

end Section20

namespace WebhookSecurity

/-- `/^(localhost|127\.|0\.|10\.|192\.168\.|169\.254\.)/`. -/
def blockedStart (hostname : List Char) : Bool :=
  startsWithAny ("localhost".toList :: privateStarts) hostname

def assertSafeOutboundUrl (raw : String) (allowedHosts : List String) :
    Except OutboundError ParsedUrl :=
  match parse raw with
  | none => .error invalidUrl
  | some (.other _ _) => .error unsafeUrl
  | some (.https parsed href) => do
      throwIf ((allowedHosts.map String.toList).contains (parsed.hostname ipv6Text) = false)
        ⟨"UNSAFE_OUTBOUND_HOST", "Outbound host is not allow-listed"⟩
      throwIf (blockedStart (parsed.hostname ipv6Text) = true) destinationForbidden
      return .https parsed href

end WebhookSecurity

/-! ## Hosts that no request may go to -/

/-- A loopback, unspecified, private or link-local address. -/
def ForbiddenIpv4 (first second : UInt8) : Prop :=
  first = 127 ∨ first = 0 ∨ first = 10 ∨ (first = 192 ∧ second = 168) ∨
    (first = 169 ∧ second = 254) ∨ (first = 172 ∧ 16 ≤ second.toNat ∧ second.toNat ≤ 31)

/-- A loopback, unspecified, unique-local or link-local address. -/
def ForbiddenIpv6 (pieces : Vector UInt16 8) : Prop :=
  pieces = #v[0, 0, 0, 0, 0, 0, 0, 1] ∨ pieces = #v[0, 0, 0, 0, 0, 0, 0, 0] ∨
    (0xFC00 ≤ pieces[0].toNat ∧ pieces[0].toNat ≤ 0xFDFF) ∨
    (0xFE80 ≤ pieces[0].toNat ∧ pieces[0].toNat ≤ 0xFEBF)

def Host.Forbidden : Host → Prop
  | .domain name => name.text = "localhost".toList ∨ ".local".toList <:+ name.text
  | .ipv4 first second _ _ => ForbiddenIpv4 first second
  | .ipv6 pieces => ForbiddenIpv6 pieces

/-- One of the allowed hosts, in any case, or a subdomain of one. -/
def Section20.Listed (allowedHosts : List String) (host : Host) : Prop :=
  ∃ allowed ∈ allowedHosts, lowerCase (host.hostname ipv6Text) = lowerCase allowed.toList ∨
    ∃ labels, lowerCase (host.hostname ipv6Text) = labels ++ '.' :: lowerCase allowed.toList

def WebhookSecurity.Listed (allowedHosts : List String) (host : Host) : Prop :=
  ∃ allowed ∈ allowedHosts, host.hostname ipv6Text = allowed.toList

/-- What a function answers with is an https URL of a listed host that is not
forbidden, or an error. -/
def OutboundSound (listed : Host → Prop) (answer : Except OutboundError ParsedUrl) : Prop :=
  ∀ url, answer = .ok url → ∃ host href, url = .https host href ∧ listed host ∧ ¬ host.Forbidden

/-- The forbidden hosts that one function lets through. -/
def Section20.Missed : Host → Prop
  | .ipv6 pieces => ForbiddenIpv6 pieces
  | _ => False

/-- The forbidden hosts that the other one lets through. -/
def WebhookSecurity.Missed : Host → Prop
  | .domain name => ".local".toList <:+ name.text ∧ WebhookSecurity.blockedStart name.text = false
  | .ipv4 first second _ _ => first = 172 ∧ 16 ≤ second.toNat ∧ second.toNat ≤ 31
  | .ipv6 pieces => ForbiddenIpv6 pieces

/-! ## Numbers with dots -/

theorem isDigit_of_mem_decimal {c : Char} {value : UInt8} (member : c ∈ decimal value) :
    c.isDigit = true :=
  Nat.isDigit_of_mem_toDigits (by decide) (by decide) member

theorem ofDigitChars_decimal (value : UInt8) :
    Nat.ofDigitChars 10 (decimal value) 0 = value.toNat :=
  Nat.ofDigitChars_ten_toDigits

theorem decimal_injective {left right : UInt8} (same : decimal left = decimal right) :
    left = right := by
  rw [← UInt8.toNat_inj, ← ofDigitChars_decimal left, ← ofDigitChars_decimal right, same]

theorem decimal_ne_nil (value : UInt8) : decimal value ≠ [] :=
  Nat.toDigits_ne_nil

theorem not_mem_decimal_dot (value : UInt8) : '.' ∉ decimal value := by
  intro member
  have digit := isDigit_of_mem_decimal member
  exact absurd digit (by decide)

/-- Texts up to their first dots are compared, and then what follows. -/
theorem dot_prefix_iff {left right front rest : List Char} (leftDotless : '.' ∉ left)
    (rightDotless : '.' ∉ right) :
    left ++ '.' :: front <+: right ++ '.' :: rest ↔ left = right ∧ front <+: rest := by
  induction left generalizing right with
  | nil =>
      cases right with
      | nil => simp
      | cons d right =>
          have differs : '.' ≠ d := by
            rintro rfl
            exact rightDotless List.mem_cons_self
          simp [List.cons_prefix_cons, differs]
  | cons c left inductionHypothesis =>
      cases right with
      | nil =>
          have differs : c ≠ '.' := by
            rintro rfl
            exact leftDotless List.mem_cons_self
          simp [List.cons_prefix_cons, differs]
      | cons d right =>
          have leftRest : '.' ∉ left := by
            intro member
            exact leftDotless (List.mem_cons_of_mem _ member)
          have rightRest : '.' ∉ right := by
            intro member
            exact rightDotless (List.mem_cons_of_mem _ member)
          rw [List.cons_append, List.cons_append, List.cons_prefix_cons,
            inductionHypothesis leftRest rightRest, List.cons.injEq, and_assoc]

theorem decimal_prefix_iff {value octet : UInt8} {front rest : List Char} :
    decimal value ++ '.' :: front <+: decimal octet ++ '.' :: rest ↔
      octet = value ∧ front <+: rest := by
  rw [dot_prefix_iff (not_mem_decimal_dot value) (not_mem_decimal_dot octet)]
  constructor
  · rintro ⟨same, follows⟩
    exact ⟨(decimal_injective same).symm, follows⟩
  · rintro ⟨rfl, follows⟩
    exact ⟨rfl, follows⟩

theorem startsWithAny_eq_true {words : List (List Char)} {chars : List Char} :
    startsWithAny words chars = true ↔ ∃ word ∈ words, word <+: chars := by
  simp [startsWithAny, List.any_eq_true]

theorem startsWithAny_eq_false {words : List (List Char)} {chars : List Char} :
    startsWithAny words chars = false ↔ ∀ word ∈ words, ¬ word <+: chars := by
  simp [startsWithAny, List.any_eq_false]

/-- The words that begin a private address, as numbers with dots. -/
theorem privateStarts_eq : privateStarts =
    [decimal 127 ++ '.' :: [], decimal 0 ++ '.' :: [], decimal 10 ++ '.' :: [],
      decimal 192 ++ '.' :: (decimal 168 ++ '.' :: []),
      decimal 169 ++ '.' :: (decimal 254 ++ '.' :: [])] := by
  decide

/-- A private address that is known by its first numbers. -/
def StartsPrivate (first second : UInt8) : Prop :=
  first = 127 ∨ first = 0 ∨ first = 10 ∨ (first = 192 ∧ second = 168) ∨
    (first = 169 ∧ second = 254)

/-- A private address of which the second number is in a range. -/
def PrivateRange (first second : UInt8) : Prop :=
  first = 172 ∧ 16 ≤ second.toNat ∧ second.toNat ≤ 31

theorem forbiddenIpv4_iff (first second : UInt8) :
    ForbiddenIpv4 first second ↔ StartsPrivate first second ∨ PrivateRange first second := by
  simp only [ForbiddenIpv4, StartsPrivate, PrivateRange, or_assoc]

theorem not_startsPrivate_of_range {first second : UInt8} (range : PrivateRange first second) :
    ¬ StartsPrivate first second := by
  rw [StartsPrivate, range.1]
  simp

theorem startsWithAny_dotted (first second third fourth : UInt8) :
    startsWithAny privateStarts (dotted first second third fourth) = true ↔
      StartsPrivate first second := by
  rw [startsWithAny_eq_true, privateStarts_eq]
  simp [dotted, decimal_prefix_iff, StartsPrivate]

theorem lowerCase_of_ascii {chars : List Char}
    (ascii : ∀ c ∈ chars, c.toNat < 128 ∧ c.toLower = c) : lowerCase chars = chars := by
  induction chars with
  | nil => rfl
  | cons c rest inductionHypothesis =>
      obtain ⟨small, lower⟩ := ascii c List.mem_cons_self
      have single : toLowerCase c = [c] := by
        rw [toLowerCase, if_neg (by omega), if_neg (by omega), lower]
      have others : lowerCase rest = rest := by
        refine inductionHypothesis ?_
        intro d member
        exact ascii d (List.mem_cons_of_mem c member)
      calc lowerCase (c :: rest)
          _ = toLowerCase c ++ lowerCase rest := List.flatMap_cons
          _ = c :: rest := by rw [single, others, List.singleton_append]

theorem ascii_of_isDigit {c : Char} (digit : c.isDigit = true) :
    c.toNat < 128 ∧ c.toLower = c := by
  have range : 48 ≤ c.toNat ∧ c.toNat ≤ 57 := by
    simpa [Char.isDigit, UInt32.le_iff_toNat_le] using digit
  refine ⟨by omega, ?_⟩
  rw [← Char.toNat_inj, toNat_toLower, if_neg (by omega)]

theorem isDigit_or_dot {c : Char} {first second third fourth : UInt8}
    (member : c ∈ dotted first second third fourth) : c.isDigit = true ∨ c = '.' := by
  simp only [dotted, List.mem_append, List.mem_cons] at member
  rcases member with inFirst | dot | inSecond | dot | inThird | dot | inFourth
  · exact .inl (isDigit_of_mem_decimal inFirst)
  · exact .inr dot
  · exact .inl (isDigit_of_mem_decimal inSecond)
  · exact .inr dot
  · exact .inl (isDigit_of_mem_decimal inThird)
  · exact .inr dot
  · exact .inl (isDigit_of_mem_decimal inFourth)

theorem ascii_dotted {first second third fourth : UInt8} :
    ∀ c ∈ dotted first second third fourth, c.toNat < 128 ∧ c.toLower = c := by
  intro c member
  cases isDigit_or_dot member with
  | inl digit => exact ascii_of_isDigit digit
  | inr dot =>
      subst dot
      decide

/-- The text of an address is the same in lower case. -/
theorem lowerCase_dotted (first second third fourth : UInt8) :
    lowerCase (dotted first second third fourth) = dotted first second third fourth :=
  lowerCase_of_ascii ascii_dotted

/-! ## What the two functions look for -/

theorem takeWhile_decimal (value : UInt8) (rest : List Char) :
    (decimal value ++ '.' :: rest).takeWhile Char.isDigit = decimal value := by
  have digits : ∀ c ∈ decimal value, c.isDigit = true := by
    intro c member
    exact isDigit_of_mem_decimal member
  rw [List.takeWhile_append_of_pos digits, List.takeWhile_cons_of_neg (by decide),
    List.append_nil]

/-- The numeric range is found in the address. -/
theorem privateSecondOctet_dotted {second third fourth : UInt8}
    (range : 16 ≤ second.toNat ∧ second.toNat ≤ 31) :
    Section20.privateSecondOctet (dotted 172 second third fourth) = true := by
  have start : dotted 172 second third fourth =
      "172.".toList ++
        (decimal second ++ '.' :: (decimal third ++ '.' :: decimal fourth)) := rfl
  have afterStart : (dotted 172 second third fourth).drop 4 =
      decimal second ++ '.' :: (decimal third ++ '.' :: decimal fourth) := by
    rw [start]
    rfl
  have isStart : ['1', '7', '2', '.'] <+: dotted 172 second third fourth := by
    rw [start]
    exact List.prefix_append _ _
  have dot : ((dotted 172 second third fourth).drop (4 + (decimal second).length)).head? =
      some '.' := by
    rw [← List.drop_drop, afterStart, List.drop_left]
    rfl
  have digits : (decimal second).isEmpty = false :=
    List.isEmpty_eq_false_iff.mpr (decimal_ne_nil second)
  simp [Section20.privateSecondOctet, afterStart, takeWhile_decimal, isStart, dot, digits,
    ofDigitChars_decimal, range]

theorem lowerCase_bracketed (inside : List Char) :
    lowerCase ('[' :: (inside ++ [']'])) = '[' :: (lowerCase inside ++ [']']) := by
  calc lowerCase ('[' :: (inside ++ [']']))
      _ = toLowerCase '[' ++ (lowerCase inside ++ toLowerCase ']') := by simp [lowerCase]
      _ = '[' :: (lowerCase inside ++ [']']) := rfl

/-- A text in brackets is none of those looked for. -/
theorem forbiddenHostname_bracketed (inside : List Char) :
    Section20.forbiddenHostname ('[' :: (inside ++ [']'])) = false := by
  have noName : ".local".toList.isSuffixOf ('[' :: (lowerCase inside ++ [']'])) = false := by
    rw [Bool.eq_false_iff, ne_eq, List.isSuffixOf_iff_suffix]
    intro suffix
    have last := suffix.getLast (by decide)
    rw [List.getLast_cons (List.append_ne_nil_of_right_ne_nil _ (List.cons_ne_nil _ _)),
      List.getLast_append_singleton] at last
    exact absurd last (by decide)
  rw [Section20.forbiddenHostname, lowerCase_bracketed, noName]
  simp [privateStarts, startsWithAny, Section20.privateSecondOctet, List.isPrefixOf]

theorem blockedStart_bracketed (inside : List Char) :
    WebhookSecurity.blockedStart ('[' :: (inside ++ [']'])) = false := by
  rw [WebhookSecurity.blockedStart, startsWithAny_eq_false]
  simp [privateStarts]

theorem blockedStart_dotted (first second third fourth : UInt8) :
    WebhookSecurity.blockedStart (dotted first second third fourth) = true ↔
      StartsPrivate first second := by
  have noName : ¬ "localhost".toList <+: dotted first second third fourth := by
    intro starts
    obtain ⟨rest, text⟩ := starts
    have letter : 'l' ∈ dotted first second third fourth := by
      rw [← text]
      exact List.mem_cons_self
    cases isDigit_or_dot letter with
    | inl digit => exact absurd digit (by decide)
    | inr dot => exact absurd dot (by decide)
  rw [← startsWithAny_dotted first second third fourth, WebhookSecurity.blockedStart,
    startsWithAny_eq_true, startsWithAny_eq_true, List.exists_mem_cons_iff]
  exact or_iff_right noName

theorem forbiddenHostname_eq_true {host : List Char} :
    Section20.forbiddenHostname host = true ↔
      ((lowerCase host = "localhost".toList ∨ ".local".toList <:+ lowerCase host) ∨
        startsWithAny privateStarts (lowerCase host) = true ∨
          Section20.privateSecondOctet (lowerCase host) = true) ∨
      lowerCase host = "::1".toList ∨
        startsWithAny ["fc".toList, "fd".toList, "fe80:".toList] (lowerCase host) = true := by
  simp only [Section20.forbiddenHostname, Bool.or_eq_true, decide_eq_true_eq,
    List.isSuffixOf_iff_suffix, or_assoc]

/-- A forbidden host without brackets is one of those looked for. -/
theorem forbiddenHostname_of_forbidden {host : Host} (forbidden : host.Forbidden)
    (known : ¬ Section20.Missed host) :
    Section20.forbiddenHostname (lowerCase (host.hostname ipv6Text)) = true := by
  rw [forbiddenHostname_eq_true]
  left
  cases host with
  | domain name =>
      left
      rw [Host.hostname, lowerCase_of_ascii name.ascii, lowerCase_of_ascii name.ascii]
      exact forbidden
  | ipv4 first second third fourth =>
      right
      rw [Host.hostname, lowerCase_dotted, lowerCase_dotted, startsWithAny_dotted]
      cases (forbiddenIpv4_iff first second).mp forbidden with
      | inl starts => exact .inl starts
      | inr range =>
          right
          rw [range.1]
          exact privateSecondOctet_dotted range.2
  | ipv6 pieces => exact absurd forbidden known

/-- The hosts that pass although they are forbidden. -/
theorem section20_missed_iff (host : Host) :
    Section20.forbiddenHostname (lowerCase (host.hostname ipv6Text)) = false ∧ host.Forbidden ↔
      Section20.Missed host := by
  constructor
  · rintro ⟨passes, forbidden⟩
    by_contra known
    have caught := forbiddenHostname_of_forbidden ipv6Text forbidden known
    rw [passes] at caught
    exact absurd caught Bool.false_ne_true
  · intro missed
    cases host with
    | domain name => exact missed.elim
    | ipv4 first second third fourth => exact missed.elim
    | ipv6 pieces =>
        have bracketed : lowerCase ((Host.ipv6 pieces).hostname ipv6Text) =
            '[' :: (lowerCase (ipv6Text pieces) ++ [']']) := lowerCase_bracketed _
        rw [bracketed]
        exact ⟨forbiddenHostname_bracketed _, missed⟩

theorem webhookSecurity_missed_iff (host : Host) :
    WebhookSecurity.blockedStart (host.hostname ipv6Text) = false ∧ host.Forbidden ↔
      WebhookSecurity.Missed host := by
  cases host with
  | domain name =>
      constructor
      · rintro ⟨passes, isLocalhost | isLocal⟩
        · rw [Host.hostname, isLocalhost] at passes
          exact absurd passes (by decide)
        · exact ⟨isLocal, passes⟩
      · rintro ⟨isLocal, passes⟩
        exact ⟨passes, .inr isLocal⟩
  | ipv4 first second third fourth =>
      have blocked := blockedStart_dotted first second third fourth
      have forbidden := forbiddenIpv4_iff first second
      constructor
      · rintro ⟨passes, isForbidden⟩
        have otherStart : ¬ StartsPrivate first second :=
          mt blocked.mpr (Bool.eq_false_iff.mp passes)
        exact (forbidden.mp isForbidden).resolve_left otherStart
      · intro range
        have otherStart := not_startsPrivate_of_range range
        exact ⟨Bool.eq_false_iff.mpr (mt blocked.mp otherStart), forbidden.mpr (.inr range)⟩
  | ipv6 pieces =>
      constructor
      · rintro ⟨_passes, forbidden⟩
        exact forbidden
      · intro missed
        exact ⟨blockedStart_bracketed _, missed⟩

/-! ## What the two functions answer -/

theorem allowListed_iff (allowedHosts : List String) (host : Host) :
    Section20.allowListed allowedHosts (lowerCase (host.hostname ipv6Text)) = true ↔
      Section20.Listed ipv6Text allowedHosts host := by
  simp only [Section20.allowListed, Section20.Listed, List.any_eq_true, List.mem_map,
    exists_exists_and_eq_and, Bool.or_eq_true, decide_eq_true_eq, List.isSuffixOf_iff_suffix,
    List.IsSuffix, @eq_comm _ (_ ++ _)]

theorem section20_eq_ok {raw : String} {allowedHosts : List String} {url : ParsedUrl} :
    Section20.assertSafeOutboundUrl parse ipv6Text raw allowedHosts = .ok url ↔
      ∃ host href, parse raw = some (.https host href) ∧ url = .https host href ∧
        Section20.Listed ipv6Text allowedHosts host ∧
          Section20.forbiddenHostname (lowerCase (host.hostname ipv6Text)) = false := by
  cases parsed : parse raw with
  | none => simp [Section20.assertSafeOutboundUrl, parsed]
  | some read =>
      cases read with
      | other protocol href => simp [Section20.assertSafeOutboundUrl, parsed]
      | https host href =>
          simp only [Section20.assertSafeOutboundUrl, parsed, bind_eq_ok, throwIf_eq_ok,
            Bool.not_eq_true, Bool.not_eq_false, allowListed_iff]
          constructor
          · rintro ⟨_, passes, _, isListed, answered⟩
            exact ⟨host, href, rfl, (Except.ok.inj answered).symm, isListed, passes⟩
          · rintro ⟨otherHost, otherHref, same, rfl, isListed, passes⟩
            obtain ⟨rfl, rfl⟩ := ParsedUrl.https.inj (Option.some.inj same)
            exact ⟨⟨⟩, passes, ⟨⟩, isListed, rfl⟩

theorem webhookSecurity_eq_ok {raw : String} {allowedHosts : List String} {url : ParsedUrl} :
    WebhookSecurity.assertSafeOutboundUrl parse ipv6Text raw allowedHosts = .ok url ↔
      ∃ host href, parse raw = some (.https host href) ∧ url = .https host href ∧
        WebhookSecurity.Listed ipv6Text allowedHosts host ∧
          WebhookSecurity.blockedStart (host.hostname ipv6Text) = false := by
  cases parsed : parse raw with
  | none => simp [WebhookSecurity.assertSafeOutboundUrl, parsed]
  | some read =>
      cases read with
      | other protocol href => simp [WebhookSecurity.assertSafeOutboundUrl, parsed]
      | https host href =>
          have included_iff :
              (allowedHosts.map String.toList).contains (host.hostname ipv6Text) = true ↔
                WebhookSecurity.Listed ipv6Text allowedHosts host := by
            rw [List.contains_iff_mem]
            simp only [WebhookSecurity.Listed, List.mem_map, eq_comm]
          simp only [WebhookSecurity.assertSafeOutboundUrl, parsed, bind_eq_ok, throwIf_eq_ok,
            Bool.not_eq_true, Bool.not_eq_false, included_iff]
          constructor
          · rintro ⟨_, isListed, _, passes, answered⟩
            exact ⟨host, href, rfl, (Except.ok.inj answered).symm, isListed, passes⟩
          · rintro ⟨otherHost, otherHref, same, rfl, isListed, passes⟩
            obtain ⟨rfl, rfl⟩ := ParsedUrl.https.inj (Option.some.inj same)
            exact ⟨⟨⟩, isListed, ⟨⟩, passes, rfl⟩

/-- A function is sound unless the parsed host is listed and passes although it
is forbidden. -/
theorem outboundSound_iff {answer : Except OutboundError ParsedUrl} {parsed : Option ParsedUrl}
    {listed passes missed : Host → Prop}
    (answers : ∀ url, answer = .ok url ↔ ∃ host href, parsed = some (.https host href) ∧
      url = .https host href ∧ listed host ∧ passes host)
    (misses : ∀ host, passes host ∧ host.Forbidden ↔ missed host) :
    OutboundSound listed answer ↔
      ∀ host href, parsed = some (.https host href) → listed host → ¬ missed host := by
  constructor
  · intro sound host href isHost isListed isMissed
    obtain ⟨passing, forbidden⟩ := (misses host).mpr isMissed
    have answered := (answers _).mpr ⟨host, href, isHost, rfl, isListed, passing⟩
    obtain ⟨otherHost, otherHref, sameUrl, _isListed, allowed⟩ := sound _ answered
    obtain ⟨rfl, _sameHref⟩ := ParsedUrl.https.inj sameUrl
    exact allowed forbidden
  · intro noneMissed url answered
    obtain ⟨host, href, isHost, isUrl, isListed, passing⟩ := (answers url).mp answered
    refine ⟨host, href, isUrl, isListed, ?_⟩
    intro forbidden
    exact noneMissed host href isHost isListed ((misses host).mp ⟨passing, forbidden⟩)

/-- Each function is sound on a text and an allow-list exactly where the host of
the text, if it is listed, is not one that the function misses. -/
theorem outboundUrls_iff (raw : String) (allowedHosts : List String) :
    (OutboundSound (Section20.Listed ipv6Text allowedHosts)
        (Section20.assertSafeOutboundUrl parse ipv6Text raw allowedHosts) ↔
      ∀ host href, parse raw = some (.https host href) →
        Section20.Listed ipv6Text allowedHosts host → ¬ Section20.Missed host) ∧
    (OutboundSound (WebhookSecurity.Listed ipv6Text allowedHosts)
        (WebhookSecurity.assertSafeOutboundUrl parse ipv6Text raw allowedHosts) ↔
      ∀ host href, parse raw = some (.https host href) →
        WebhookSecurity.Listed ipv6Text allowedHosts host → ¬ WebhookSecurity.Missed host) := by
  constructor
  · refine outboundSound_iff ?_ (section20_missed_iff ipv6Text)
    intro url
    exact section20_eq_ok parse ipv6Text
  · refine outboundSound_iff ?_ (webhookSecurity_missed_iff ipv6Text)
    intro url
    exact webhookSecurity_eq_ok parse ipv6Text

/-- The loopback address in brackets passes both functions once it is listed, and
an address of the fourth private range passes the one that does not look for it. -/
theorem bracketed_loopback_accepted :
    ¬ OutboundSound (Section20.Listed (fun _ => "::1".toList) ["[::1]"])
        (Section20.assertSafeOutboundUrl
          (fun raw => some (.https (.ipv6 #v[0, 0, 0, 0, 0, 0, 0, 1]) raw))
          (fun _ => "::1".toList) "https://[::1]/" ["[::1]"]) ∧
      ¬ OutboundSound (WebhookSecurity.Listed (fun _ => "::1".toList) ["[::1]"])
        (WebhookSecurity.assertSafeOutboundUrl
          (fun raw => some (.https (.ipv6 #v[0, 0, 0, 0, 0, 0, 0, 1]) raw))
          (fun _ => "::1".toList) "https://[::1]/" ["[::1]"]) ∧
        ¬ OutboundSound (WebhookSecurity.Listed (fun _ => "::1".toList) ["172.16.0.1"])
          (WebhookSecurity.assertSafeOutboundUrl
            (fun raw => some (.https (.ipv4 172 16 0 1) raw))
            (fun _ => "::1".toList) "https://172.16.0.1/" ["172.16.0.1"]) := by
  refine ⟨?_, ?_, ?_⟩
  · rw [outboundSound_iff (fun url => section20_eq_ok _ _) (section20_missed_iff _)]
    intro noneMissed
    exact noneMissed _ _ rfl ⟨_, List.mem_cons_self, .inl (by decide)⟩ (.inl rfl)
  · rw [outboundSound_iff (fun url => webhookSecurity_eq_ok _ _) (webhookSecurity_missed_iff _)]
    intro noneMissed
    exact noneMissed _ _ rfl ⟨_, List.mem_cons_self, by decide⟩ (.inl rfl)
  · rw [outboundSound_iff (fun url => webhookSecurity_eq_ok _ _) (webhookSecurity_missed_iff _)]
    intro noneMissed
    exact noneMissed _ _ rfl ⟨_, List.mem_cons_self, by decide⟩ ⟨rfl, by decide⟩

end PlatformArchitecture.Security
