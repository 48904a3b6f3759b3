import Mathlib.Data.List.SplitBy
import SealedRelay.Proofs.Address.Written
import SealedRelay.Proofs.Proxy.RequestHead

/-!
# The destination that a request names

A destination has a text, and a client that puts this text into its request is relayed to that
destination, not to any other. The user information in front of it, the path behind it, the brackets and
colons of an IPv6 address and the colon before the port all meet in one string of characters, and each of
them is cut off where it belongs.

Results:
* `parse_text`: the text of a destination names it, whatever user information stands before it.
* `words_cons`, `firstLine_append`: how the request line comes apart.
* `named_destination_dialed`: from a request to the destination that it names.
-/
namespace SealedRelay

namespace Text

/-! ## Numbers -/

theorem digit?_digitChar {d : Nat} (h : d < 10) : digit? d.digitChar = some d := by
  interval_cases d <;> rfl

theorem digits?_toDigits (n : Nat) : digits? (Nat.toDigits 10 n) = some n := by
  induction n using Nat.strongRecOn with
  | ind n ih =>
    rw [Nat.toDigits_eq_if (by decide)]
    split
    · rename_i hlt
      simp [digits?, digit?_digitChar hlt]
    · have hmod : n % 10 < 10 := Nat.mod_lt _ (by decide)
      have hdiv := ih (n / 10) (by omega)
      rw [digits?] at hdiv
      rw [digits?, List.foldlM_append, hdiv]
      simp [digit?_digitChar hmod]
      omega

theorem unsigned?_toDigits {n most : Nat} (h : n ≤ most) : unsigned? most (Nat.toDigits 10 n) = some n := by
  have hplus : (Nat.toDigits 10 n).head? ≠ some '+' := fun hhead => by
    have hdigit := Nat.isDigit_of_mem_toDigits (by decide) (by decide) (List.mem_of_mem_head? hhead)
    exact absurd hdigit (by decide)
  rw [unsigned?, if_neg hplus]
  simp [Nat.toDigits_ne_nil, digits?_toDigits, h]

/-! ## Words -/

/-- What is said of the characters of a text is decided by them, not by trying all that there are. -/
instance decidableForallMem (p : Char → Prop) [DecidablePred p] (s : List Char) :
    Decidable (∀ c ∈ s, p c) :=
  List.decidableBAll p s

structure Word (s : List Char) : Prop where
  nonempty : s ≠ []
  nonblank : ∀ c ∈ s, isBlank c = false

instance : DecidablePred Word := fun s =>
  decidable_of_iff (s ≠ [] ∧ ∀ c ∈ s, isBlank c = false)
    ⟨fun h => ⟨h.1, h.2⟩, fun h => ⟨h.nonempty, h.nonblank⟩⟩

/-- Blanks are kept apart from other characters. -/
def sameKind (a b : Char) : Bool := isBlank a == isBlank b

theorem words_eq (s : List Char) : words s = (s.splitBy sameKind).filter fun w => !(w.all isBlank) :=
  rfl

theorem Word.splitBy_eq {s : List Char} (h : Word s) : s.splitBy sameKind = [s] := by
  have hkind : s.Pairwise fun a b => sameKind a b = true :=
    List.pairwise_of_forall_mem_list fun a ha b hb => by
      simp [sameKind, h.nonblank a ha, h.nonblank b hb]
  exact List.splitBy_of_isChain h.nonempty hkind.isChain

theorem Word.head_nonblank {s : List Char} (h : Word s) (rest : List Char) :
    ∀ c ∈ (s ++ rest).head?, isBlank c = false := by
  intro c hc
  rw [List.head?_append_of_ne_nil _ h.nonempty] at hc
  exact h.nonblank c (List.mem_of_mem_head? hc)

theorem Word.append {s rest : List Char} (h : Word s) (hrest : ∀ c ∈ rest, isBlank c = false) :
    Word (s ++ rest) where
  nonempty := List.append_ne_nil_of_left_ne_nil h.nonempty rest
  nonblank := List.forall_mem_append.2 ⟨h.nonblank, hrest⟩

theorem Word.not_all_blank {s : List Char} (h : Word s) : s.all isBlank = false := by
  obtain ⟨c, hc⟩ := List.exists_mem_of_ne_nil s h.nonempty
  exact List.all_eq_false.2 ⟨c, hc, by simp [h.nonblank c hc]⟩

theorem words_word {s : List Char} (h : Word s) : words s = [s] := by
  rw [words_eq, h.splitBy_eq]
  simp [h.not_all_blank]

/-- A word ends at a space. -/
theorem words_cons {s rest : List Char} (h : Word s) (hrest : ∀ c ∈ rest.head?, isBlank c = false) :
    words (s ++ ' ' :: rest) = s :: words rest := by
  have hspace : isBlank ' ' = true := by decide
  have hbefore : ∀ x ∈ s.getLast?, sameKind x ' ' = false := fun x hx => by
    simp [sameKind, hspace, h.nonblank x (List.mem_of_mem_getLast? hx)]
  have hbehind : ∀ x ∈ [' '].getLast?, ∀ y ∈ rest.head?, sameKind x y = false := by
    rintro _ ⟨⟩ y hy
    simp [sameKind, hspace, hrest y hy]
  have hsplit : (' ' :: rest).splitBy sameKind = [' '] :: rest.splitBy sameKind :=
    List.splitBy_append hbehind
  rw [words_eq, words_eq, List.splitBy_append_cons rest hbefore, h.splitBy_eq, hsplit]
  simp [h.not_all_blank, hspace]

theorem isBlank_toLower (c : Char) : isBlank c.toLower = isBlank c := by
  by_cases h : 65 ≤ c.toNat ∧ c.toNat ≤ 90
  · have hall : ∀ n ≤ 90, 65 ≤ n → isBlank (Char.ofNat n).toLower = isBlank (Char.ofNat n) := by decide
    have hc := hall c.toNat h.2 h.1
    rwa [Char.ofNat_toNat] at hc
  · have hc : c.toLower = c := dif_neg h
    rw [hc]

theorem Word.of_toLower {s : List Char} (h : Word (s.map Char.toLower)) : Word s where
  nonempty hnil := h.nonempty (by rw [hnil]; rfl)
  nonblank c hc := by
    rw [← isBlank_toLower]
    exact h.nonblank _ (List.mem_map_of_mem hc)

end Text

end SealedRelay

namespace SealedRelay.Proxy

open Text

namespace Authority

variable {c : Char} {s t : List Char} {d : Destination}

/-! ## Authorities -/

theorem takeWhile_ne (h : c ∉ t) : t.takeWhile (· ≠ c) = t := by
  refine List.takeWhile_eq_self_iff.2 fun x hx => decide_eq_true fun hc => ?_
  exact h (hc ▸ hx)

theorem takeWhile_ne_append (h : c ∉ t) (s : List Char) : (t ++ c :: s).takeWhile (· ≠ c) = t := by
  have hall : ∀ x ∈ t, decide (x ≠ c) = true := fun x hx => decide_eq_true fun hc => h (hc ▸ hx)
  rw [List.takeWhile_append_of_pos hall]
  simp

theorem dropWhile_ne_append (h : c ∉ t) (s : List Char) :
    (t ++ c :: s).dropWhile (· ≠ c) = c :: s := by
  have hall : ∀ x ∈ t, decide (x ≠ c) = true := fun x hx => decide_eq_true fun hc => h (hc ▸ hx)
  rw [List.dropWhile_append_of_pos hall]
  simp

theorem afterLast_of_not_mem (h : c ∉ t) : afterLast c t = t := by
  rw [afterLast, takeWhile_ne (by simpa using h), List.reverse_reverse]

theorem afterLast_append (h : c ∉ t) : afterLast c (s ++ c :: t) = t := by
  have hreverse : (s ++ c :: t).reverse = t.reverse ++ c :: s.reverse := by simp
  rw [afterLast, hreverse, takeWhile_ne_append (by simpa using h), List.reverse_reverse]

theorem splitLast_append (h : c ∉ t) : splitLast c (s ++ c :: t) = some (s, t) := by
  have hmem : c ∈ s ++ c :: t := by simp
  have hreverse : (s ++ c :: t).reverse = t.reverse ++ c :: s.reverse := by simp
  rw [splitLast, if_pos hmem, afterLast_append h, hreverse, dropWhile_ne_append (by simpa using h)]
  simp

theorem splitFirst_append (h : c ∉ s) : splitFirst c (s ++ c :: t) = some (s, t) := by
  have hmem : c ∈ s ++ c :: t := by simp
  rw [splitFirst, if_pos hmem, takeWhile_ne_append h, dropWhile_ne_append h]
  simp

/-! ## Destinations -/

/-- A character that ends neither a host nor the authority it stands in. -/
structure Plain (c : Char) : Prop where
  nonblank : isBlank c = false
  inside : c ∉ ['@', '/', '?', '#']

instance : DecidablePred Plain := fun c =>
  decidable_of_iff (isBlank c = false ∧ c ∉ ['@', '/', '?', '#'])
    ⟨fun h => ⟨h.1, h.2⟩, fun h => ⟨h.nonblank, h.inside⟩⟩

/-- A destination that can be named: an address, or a domain name in plain characters that does not look
like an address. -/
inductive Nameable : Destination → Prop
  | ip (e : Endpoint) : Nameable (.ip e)
  | domain {name : String} {port : UInt16} (nonempty : name.toList ≠ [])
      (plain : ∀ c ∈ name.toList, Plain c) (bare : name.toList.head? ≠ some '[')
      (literal : Ip.ofText? name.toList = none) : Nameable (.domain name port)

theorem plain_of_mem : ∀ c ∈ '[' :: ']' :: Address.alphabet, Plain c := by
  decide +kernel

def portText (port : UInt16) : List Char := Nat.toDigits 10 port.toNat

theorem portText_subset (port : UInt16) : portText port ⊆ Address.alphabet := fun _ =>
  Address.mem_alphabet_of_mem_toDigits (by decide) (by decide)

theorem toList_host (host : String) (port : UInt16) :
    (host ++ ":" ++ port.toNat.repr).toList = host.toList ++ ':' :: portText port := by
  rw [String.toList_append, String.toList_append, Nat.toList_repr, List.append_assoc]
  rfl

theorem toList_domain (name : String) (port : UInt16) :
    (Destination.domain name port).text.toList = name.toList ++ ':' :: portText port :=
  toList_host name port

theorem toList_v4 (a : Ipv4) (port : UInt16) :
    (Destination.ip ⟨.v4 a, port⟩).text.toList = (Ip.v4 a).text.toList ++ ':' :: portText port :=
  toList_host (Ip.v4 a).text port

theorem toList_v6 (a : Ipv6) (port : UInt16) :
    (Destination.ip ⟨.v6 a, port⟩).text.toList =
      '[' :: ((Ip.v6 a).text.toList ++ ']' :: ':' :: portText port) := by
  have htext : (Destination.ip ⟨.v6 a, port⟩).text =
      "[" ++ (Ip.v6 a).text ++ "" ++ "]:" ++ port.toNat.repr := rfl
  rw [htext]
  simp [portText, Nat.toList_repr]

/-- The text of a destination that can be named is plain. -/
theorem Nameable.plain_text (h : Nameable d) : ∀ c ∈ d.text.toList, Plain c := by
  have hport (port : UInt16) : ∀ c ∈ portText port, Plain c := fun c hc =>
    plain_of_mem c (List.mem_cons_of_mem _ (List.mem_cons_of_mem _ (portText_subset port hc)))
  have haddress (ip : Ip) : ∀ c ∈ ip.text.toList, Plain c := fun c hc =>
    plain_of_mem c (List.mem_cons_of_mem _ (List.mem_cons_of_mem _ (ip.text_subset hc)))
  have hcolon : Plain ':' := plain_of_mem _ (by decide)
  have hopen : Plain '[' := plain_of_mem _ (by decide)
  have hclose : Plain ']' := plain_of_mem _ (by decide)
  cases h with
  | domain nonempty plain =>
    rw [toList_domain]
    exact List.forall_mem_append.2 ⟨plain, List.forall_mem_cons.2 ⟨hcolon, hport _⟩⟩
  | ip e =>
    obtain ⟨a | a, port⟩ := e
    · rw [toList_v4]
      exact List.forall_mem_append.2 ⟨haddress (.v4 a), List.forall_mem_cons.2 ⟨hcolon, hport port⟩⟩
    · rw [toList_v6]
      exact List.forall_mem_cons.2 ⟨hopen, List.forall_mem_append.2 ⟨haddress (.v6 a),
        List.forall_mem_cons.2 ⟨hclose, List.forall_mem_cons.2 ⟨hcolon, hport port⟩⟩⟩⟩

theorem read_port (port : UInt16) :
    (unsigned? 65535 (portText port)).map UInt16.ofNat = some port := by
  have hlt : port.toNat < 65536 := port.toNat_lt
  rw [portText, unsigned?_toDigits (Nat.le_of_lt_succ hlt), Option.map_some, UInt16.ofNat_toNat]

theorem colon_not_mem_portText (port : UInt16) : ':' ∉ portText port := fun h => by
  have hdigit := Address.isSome_digitIn (by decide) (by decide) h
  exact absurd hdigit (by decide)

theorem split_bare {host : List Char} (hbare : host.head? ≠ some '[') (hhost : host ≠ []) (port : UInt16) :
    split (host ++ ':' :: portText port) = some (host, some (portText port)) := by
  have hlast := splitLast_append (s := host) (colon_not_mem_portText port)
  obtain ⟨c, host, rfl⟩ := List.exists_cons_of_ne_nil hhost
  have hc : c ≠ '[' := by simpa using hbare
  -- the host may be anything that does not begin with a bracket, so its first character decides
  unfold split
  split
  · rename_i rest heq
    exact absurd (List.cons.inj heq).1 hc
  · rw [hlast]

theorem split_bracketed {host : List Char} (h : ']' ∉ host) (port : UInt16) :
    split ('[' :: (host ++ ']' :: ':' :: portText port)) = some (host, some (portText port)) := by
  simp [split, splitFirst_append h]

theorem destination?_of_split {host : List Char} {port : UInt16} (defaultPort : Option UInt16)
    (hsplit : split s = some (host, some (portText port))) (hhost : host ≠ []) :
    destination? s defaultPort = some (match Ip.ofText? host with
      | some ip => .ip ⟨ip, port⟩
      | none => .domain (String.ofList host) port) := by
  rw [destination?, hsplit]
  simp only [Option.bind_eq_bind, Option.bind_some, read_port, List.isEmpty_iff, hhost, if_false]
  cases Ip.ofText? host <;> rfl

theorem ofText?_nil : Ip.ofText? [] = none := by
  decide

theorem destination?_text (h : Nameable d) (defaultPort : Option UInt16) :
    destination? d.text.toList defaultPort = some d := by
  cases h with
  | domain nonempty _ bare literal =>
    rw [toList_domain, destination?_of_split _ (split_bare bare nonempty _) nonempty, literal]
    simp
  | ip e =>
    obtain ⟨ip, port⟩ := e
    have hread := ip.ofText?_text
    have hhost : ip.text.toList ≠ [] := fun hnil => by
      rw [hnil, ofText?_nil] at hread
      cases hread
    have hoff {c : Char} (hc : c ∉ Address.alphabet) : c ∉ ip.text.toList := fun h => hc (ip.text_subset h)
    cases ip with
    | v4 a =>
      have hbare : (Ip.v4 a).text.toList.head? ≠ some '[' := fun hhead =>
        hoff (by decide) (List.mem_of_mem_head? hhead)
      rw [toList_v4, destination?_of_split _ (split_bare hbare hhost port) hhost, hread]
    | v6 a =>
      rw [toList_v6, destination?_of_split _ (split_bracketed (hoff (by decide)) port) hhost, hread]

/-- The text of a destination names it, and what stands before an `@` does not matter. -/
theorem parse_text (h : Nameable d) (defaultPort : Option UInt16) :
    parse d.text.toList defaultPort = .ok d ∧
      ∀ u : List Char, parse (u ++ '@' :: d.text.toList) defaultPort = .ok d := by
  have hat : '@' ∉ d.text.toList := fun hmem => (h.plain_text _ hmem).inside (by decide)
  have hd := destination?_text h defaultPort
  refine ⟨?_, fun u => ?_⟩
  · rw [parse, afterLast_of_not_mem hat, hd]
  · rw [parse, afterLast_append hat, hd]

example :
    parse "a:b@c@[::ffff:10.0.0.1]:8080".toList none =
      .ok (.ip ⟨.v6 ⟨[0, 0, 0, 0, 0, 0, 0, 0, 0, 0, 0xff, 0xff, 10, 0, 0, 1], rfl⟩, 8080⟩) := by
  decide +kernel

end Authority

namespace Http

open Authority Talk

variable {d : Destination} {s t method uri version : List Char}

/-! ## Request lines -/

/-- What may follow a line: nothing, or an end of line and anything. -/
inductive LineEnd : List Char → Prop
  | none : LineEnd []
  | lf (rest : List Char) : LineEnd ('\n' :: rest)
  | crlf (rest : List Char) : LineEnd ('\r' :: '\n' :: rest)

theorem firstLine_append {line after : List Char} (hlf : '\n' ∉ line) (hcr : line.getLast? ≠ some '\r')
    (h : LineEnd after) : firstLine (line ++ after) = line := by
  cases h with
  | none =>
    rw [List.append_nil, firstLine, takeWhile_ne hlf]
    simp
  | lf rest =>
    rw [firstLine, takeWhile_ne_append hlf]
    simp [hcr]
  | crlf rest =>
    have hsplit : line ++ '\r' :: '\n' :: rest = (line ++ ['\r']) ++ '\n' :: rest := by simp
    have hmem : '\n' ∉ line ++ ['\r'] := by simp [hlf]
    rw [hsplit, firstLine, takeWhile_ne_append hmem]
    simp

theorem parseLine_words (hmethod : Word method) (huri : Word uri) (hversion : Word version)
    (hhttp : "HTTP/".toList <+: version) :
    parseLine (method ++ ' ' :: (uri ++ ' ' :: version)) =
      (target method uri).map fun t => ⟨String.ofList method, String.ofList version, t⟩ := by
  have hlast : ∀ c ∈ version.head?, isBlank c = false := fun c hc =>
    hversion.nonblank c (List.mem_of_mem_head? hc)
  have hwords : words (method ++ ' ' :: (uri ++ ' ' :: version)) = [method, uri, version] := by
    rw [words_cons hmethod (huri.head_nonblank _), words_cons huri hlast, words_word hversion]
  rw [parseLine, hwords]
  exact if_pos (List.isPrefixOf_iff_prefix.2 hhttp)

/-- User information before a host, with the `@` behind it, or nothing. -/
inductive User : List Char → Prop
  | none : User []
  | some {u : List Char} (nonblank : ∀ c ∈ u, isBlank c = false) (inside : ∀ c ∈ u, c ∉ ['/', '?', '#']) :
      User (u ++ ['@'])

theorem User.parse_eq {user : List Char} (h : User user) (hd : Nameable d) (port : Option UInt16) :
    Authority.parse (user ++ d.text.toList) port = .ok d := by
  obtain ⟨hbare, huser⟩ := parse_text hd port
  cases h with
  | none => exact hbare
  | @some u =>
    rw [List.append_assoc]
    exact huser u

theorem User.plain {user : List Char} (h : User user) :
    ∀ c ∈ user, isBlank c = false ∧ c ∉ ['/', '?', '#'] := by
  cases h with
  | none => exact nofun
  | some nonblank inside =>
    refine List.forall_mem_append.2 ⟨fun c hc => ⟨nonblank c hc, inside c hc⟩, ?_⟩
    exact List.forall_mem_singleton.2 (by decide)

/-- The authority of an absolute target ends where the path, the query or the fragment begins. -/
theorem target_forward {scheme user rest : List Char} (hmethod : lower method ≠ "connect".toList)
    (hscheme : lower scheme = "http://".toList) (huser : User user) (hd : Nameable d)
    (hrest : ∀ c ∈ rest.head?, c ∈ ['/', '?', '#']) :
    target method (scheme ++ (user ++ d.text.toList ++ rest)) = .ok (.forward d) := by
  have hlen : scheme.length = 7 := by
    have hlower := congrArg List.length hscheme
    rwa [lower, List.length_map] at hlower
  have hinside : ∀ c ∈ user ++ d.text.toList, decide (c ≠ '/' ∧ c ≠ '?' ∧ c ≠ '#') = true := by
    refine List.forall_mem_append.2 ⟨fun c hc => ?_, fun c hc => ?_⟩
    · simpa using (huser.plain c hc).2
    · have hplain := (hd.plain_text c hc).inside
      simp only [List.mem_cons, not_or] at hplain
      simp [hplain]
  have hend : rest.takeWhile (fun c => decide (c ≠ '/' ∧ c ≠ '?' ∧ c ≠ '#')) = [] := by
    cases rest with
    | nil => rfl
    | cons c rest =>
      have hc := hrest c rfl
      refine List.takeWhile_cons_of_neg ?_
      simpa [or_iff_not_imp_left] using hc
  rw [target, if_neg hmethod, List.take_left' hlen, if_pos hscheme, List.drop_left' hlen,
    List.takeWhile_append_of_pos hinside, hend, List.append_nil]
  dsimp only
  rw [huser.parse_eq hd]
  rfl

/-- A request line that names a destination, and what it comes to. -/
inductive Names (d : Destination) : String → Line → Prop
  | forward {method scheme user rest version : String} (word : Word method.toList)
      (other : lower method.toList ≠ "connect".toList) (http : lower scheme.toList = "http://".toList)
      (info : User user.toList) (nonblank : ∀ c ∈ rest.toList, isBlank c = false)
      (cut : ∀ c ∈ rest.toList.head?, c ∈ ['/', '?', '#']) (last : Word version.toList)
      (known : "HTTP/".toList <+: version.toList) :
      Names d (method ++ " " ++ (scheme ++ (user ++ d.text ++ rest)) ++ " " ++ version)
        ⟨method, version, .forward d⟩
  | tunnel {method version : String} (connect : lower method.toList = "connect".toList)
      (last : Word version.toList) (known : "HTTP/".toList <+: version.toList) :
      Names d (method ++ " " ++ d.text ++ " " ++ version) ⟨method, version, .tunnel d⟩

theorem toList_line (method uri version after : String) :
    (method ++ " " ++ uri ++ " " ++ version ++ after).toList =
      method.toList ++ ' ' :: (uri.toList ++ ' ' :: version.toList) ++ after.toList := by
  have hspace : " ".toList = [' '] := rfl
  simp [hspace]

theorem firstLine_words {after : List Char} (hmethod : Word method) (huri : Word uri)
    (hversion : Word version) (hafter : LineEnd after) :
    firstLine (method ++ ' ' :: (uri ++ ' ' :: version) ++ after) =
      method ++ ' ' :: (uri ++ ' ' :: version) := by
  have hoff {w : List Char} (hw : Word w) : '\n' ∉ w := fun h =>
    absurd (hw.nonblank _ h) (by decide)
  have hsplit : method ++ ' ' :: (uri ++ ' ' :: version) =
      (method ++ ' ' :: (uri ++ [' '])) ++ version := by simp
  refine firstLine_append ?_ (fun hlast => ?_) hafter
  · simp [hoff hmethod, hoff huri, hoff hversion]
  · rw [hsplit, List.getLast?_append_of_ne_nil _ hversion.nonempty] at hlast
    exact absurd (hversion.nonblank _ (List.mem_of_mem_getLast? hlast)) (by decide)

/-- The request line of a head is made of its three words, whatever comes behind the line. -/
theorem parseHead_words {method uri version after : String} (hmethod : Word method.toList)
    (huri : Word uri.toList) (hversion : Word version.toList) (hhttp : "HTTP/".toList <+: version.toList)
    (hafter : LineEnd after.toList) :
    parseHead (Bytes.ofText (method ++ " " ++ uri ++ " " ++ version ++ after)) =
      (target method.toList uri.toList).map fun t => ⟨method, version, t⟩ := by
  rw [parseHead, Bytes.toText?_ofText]
  dsimp only
  rw [toList_line, firstLine_words hmethod huri hversion hafter,
    parseLine_words hmethod huri hversion hhttp, String.ofList_toList, String.ofList_toList]

theorem word_text (hd : Nameable d) : Word d.text.toList where
  nonempty hnil := by
    have hread := destination?_text hd none
    rw [hnil] at hread
    cases hread
  nonblank c hc := (hd.plain_text c hc).nonblank

theorem word_of_lower (hs : lower s = t) (ht : Word t) : Word s :=
  .of_toLower (show Word (lower s) from hs ▸ ht)

/-- What the head comes to that begins with such a line. -/
theorem Names.parseHead_eq {line : String} {l : Line} (h : Names d line l) (hd : Nameable d)
    {after : String} (hafter : LineEnd after.toList) : parseHead (Bytes.ofText (line ++ after)) = .ok l := by
  have htext := word_text hd
  cases h with
  | @forward method scheme user rest version word other http info nonblank cut last known =>
    have hscheme : Word scheme.toList := word_of_lower http (by decide +kernel)
    have huri : Word (scheme ++ (user ++ d.text ++ rest)).toList := by
      simp only [String.toList_append]
      refine hscheme.append (List.forall_mem_append.2 ⟨List.forall_mem_append.2 ⟨?_, ?_⟩, nonblank⟩)
      · exact fun c hc => (info.plain c hc).1
      · exact htext.nonblank
    rw [parseHead_words word huri last known hafter]
    simp only [String.toList_append]
    rw [target_forward other http info hd cut]
    rfl
  | @tunnel method version connect last known =>
    have hmethod : Word method.toList := word_of_lower connect (by decide +kernel)
    rw [parseHead_words hmethod htext last known hafter, target, if_pos connect, (parse_text hd _).1]
    rfl

/-- **The destination dialed is the one that the request names.** Let a destination be an address, or a
domain name in plain characters that does not look like one. Its text is an authority that names it,
with any user information before it and whatever the default port is. And a request whose first line has
this text in its target, with or without user information, is a request for this destination, to be
forwarded or to be connected as the method says, whatever its other lines are; so it is when the request
is read from a client, in whatever pieces it arrives. -/
theorem named_destination_dialed (hd : Nameable d) :
    (∀ port, Authority.parse d.text.toList port = .ok d ∧
      ∀ u : List Char, Authority.parse (u ++ '@' :: d.text.toList) port = .ok d) ∧
    ∀ line l, Names d line l → ∀ after : String, LineEnd after.toList →
      (∀ buffered e, buffered.take e = Bytes.ofText (line ++ after) →
        requested (.ok (buffered, e)) = .ok ⟨l, buffered, e⟩) ∧
      ∀ (arrivals : List Bytes) (ended : Bool) (e : Nat), e ≤ maxHead → HeadEnds arrivals.flatten e →
        arrivals.flatten.take e = Bytes.ofText (line ++ after) →
        ∃ r : Request, (receiveRequest.run.attend arrivals ended).1.result? = some (.ok r) ∧ r.line = l := by
  refine ⟨parse_text hd, fun line l hline after hafter => ?_⟩
  have hhead := hline.parseHead_eq hd hafter
  have hrequested : ∀ buffered e, buffered.take e = Bytes.ofText (line ++ after) →
      requested (.ok (buffered, e)) = .ok ⟨l, buffered, e⟩ := fun buffered e htake =>
    requested_eq_ok_iff.2 ⟨l, htake ▸ hhead, rfl⟩
  refine ⟨hrequested, fun arrivals ended e hle hends htake => ?_⟩
  obtain ⟨r, left, hread, hresult, -, -⟩ := receiveRequest_attend arrivals ended
  obtain ⟨buffered, rfl, hall, hinside⟩ := hread.of_ends hends hle
  have hbuffered : buffered.take e = Bytes.ofText (line ++ after) := by
    rw [← htake, ← hall, List.take_append_of_le_length hinside]
  rw [Option.map_some, hrequested buffered e hbuffered] at hresult
  exact ⟨_, hresult, rfl⟩

/-- A service by its name. -/
def service : Destination := .domain "svc.test" 81

/-- The start of a request for it, in which another host is named as well. -/
def requestForService : Bytes :=
  Bytes.ofText "GET hTTp://me:pw@svc.test:81/x@y HTTP/1.1\r\nHost: other.test\r\n\r\n"

theorem service_is_dialed :
    Nameable service ∧ HeadEnds requestForService 63 ∧
      Authority.parse "me@home@svc.test:81".toList none = .ok service ∧
      ∃ r : Request, (receiveRequest.run.attend
          [requestForService.take 20, requestForService.drop 20] false).1.result? = some (.ok r) ∧
        r.line = ⟨"GET", "HTTP/1.1", .forward service⟩ := by
  have hd : Nameable service :=
    .domain (by decide) (by decide +kernel) (by decide) (by decide +kernel)
  have hinfo : User "me:pw@".toList :=
    show User ("me:pw".toList ++ ['@']) from .some (by decide +kernel) (by decide +kernel)
  have hcut : ∀ c ∈ "/x@y".toList.head?, c ∈ ['/', '?', '#'] := by
    rintro _ ⟨⟩
    decide
  have hline := @Names.forward service "GET" "hTTp://" "me:pw@" "/x@y" "HTTP/1.1" (by decide +kernel)
    (by decide) (by decide) hinfo (by decide +kernel) hcut (by decide +kernel) (by decide)
  have hends : HeadEnds requestForService 63 := headEnd?_eq_some_iff.1 (by decide +kernel)
  have hall : [requestForService.take 20, requestForService.drop 20].flatten = requestForService := by simp
  obtain ⟨hparse, hdialed⟩ := named_destination_dialed hd
  have hread := (hdialed _ _ hline "\r\nHost: other.test\r\n\r\n" (.crlf _)).2
    [requestForService.take 20, requestForService.drop 20] false 63 (by decide) (hall.symm ▸ hends)
    (by decide +kernel)
  exact ⟨hd, hends, (hparse none).2 "me@home".toList, hread⟩

end Http

end SealedRelay.Proxy
