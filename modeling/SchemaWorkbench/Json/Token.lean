import SchemaWorkbench.Json.Number

/-!
# JSON tokens

A text is cut into tokens from left to right. A token that breaks off ends the list: nothing after
it is looked at.

## Main definitions

* `Token`: punctuation, complete scalars and the tokens that break off
* `scanText`: the rest of a string after its opening quote
* `tokens`: the tokens of a text
-/

namespace SchemaWorkbench.Json

/-- A token of a JSON text. -/
inductive Token where
  | listOpen
  | listClose
  | objectOpen
  | objectClose
  | colon
  | comma
  /-- A complete string. -/
  | text (value : String)
  /-- A complete literal other than a string. -/
  | scalar (value : Json)
  /-- A string that breaks off. -/
  | brokenText (cause : SyntaxError)
  /-- Something else that no value starts with or that breaks off. -/
  | broken (cause : SyntaxError)

/-- The character is whitespace between tokens. -/
def isGap (c : Char) : Bool :=
  c == ' ' || c == '\t' || c == '\n' || c == '\r'

/-- The value of four hexadecimal digits at the front of a text. The text is too short if fewer than
four bytes are left, whatever they are. -/
def hexUnit (cs : List Char) : Except SyntaxError (Nat × List Char) :=
  if (cs.take 4).foldl (fun n c => n + c.utf8Size) 0 < 4 then
    .error .endInString
  else
    match (cs.take 4).mapM Text.hexValue? with
    | some [a, b, c, d] => .ok (((a * 16 + b) * 16 + c) * 16 + d, cs.drop 4)
    | _ => .error .invalidEscape

/-- The character that a leading and a trailing surrogate stand for. -/
def joinSurrogates (lead trail : Nat) : Char :=
  Char.ofNat (0x10000 + (lead - 0xD800) * 0x400 + (trail - 0xDC00))

/-- The character of an escape by number, after `\u`. A leading surrogate needs a trailing one in a
second escape. -/
def unicodeEscape (cs : List Char) : Except SyntaxError (Char × List Char) := do
  let (unit, rest) ← hexUnit cs
  if 0xDC00 ≤ unit ∧ unit ≤ 0xDFFF then
    .error .loneSurrogate
  else if unit < 0xD800 ∨ 0xDBFF < unit then
    .ok (Char.ofNat unit, rest)
  else
    match rest with
    | [] => .error .endInString
    | '\\' :: [] => .error .endInString
    | '\\' :: 'u' :: rest =>
      let (second, rest) ← hexUnit rest
      if 0xDC00 ≤ second ∧ second ≤ 0xDFFF then
        .ok (joinSurrogates unit second, rest)
      else
        .error .loneSurrogate
    | _ => .error .unpairedEscape

/-- The character of an escape, after the backslash. -/
def escape : List Char → Except SyntaxError (Char × List Char)
  | [] => .error .endInString
  | 'u' :: cs => unicodeEscape cs
  | c :: cs =>
    match c with
    | '"' => .ok ('"', cs)
    | '\\' => .ok ('\\', cs)
    | '/' => .ok ('/', cs)
    | 'b' => .ok ('\x08', cs)
    | 'f' => .ok ('\x0c', cs)
    | 'n' => .ok ('\n', cs)
    | 'r' => .ok ('\r', cs)
    | 't' => .ok ('\t', cs)
    | _ => .error .invalidEscape

theorem hexUnit_length {cs rest : List Char} {n : Nat} (h : hexUnit cs = .ok (n, rest)) :
    rest.length ≤ cs.length := by
  unfold hexUnit at h
  split at h
  · contradiction
  · split at h
    · cases h
      simp
    · contradiction

theorem unicodeEscape_length {cs rest : List Char} {c : Char}
    (h : unicodeEscape cs = .ok (c, rest)) : rest.length ≤ cs.length := by
  unfold unicodeEscape at h
  cases hu : hexUnit cs with
  | error e => simp [hu, bind, Except.bind] at h
  | ok p =>
    obtain ⟨unit, r⟩ := p
    have hr := hexUnit_length hu
    simp only [hu, bind, Except.bind] at h
    split at h
    · contradiction
    · split at h
      · simp only [Except.ok.injEq, Prod.mk.injEq] at h
        obtain ⟨-, rfl⟩ := h
        exact hr
      · split at h
        · contradiction
        · contradiction
        · rename_i r'
          split at h
          · contradiction
          · rename_i q hq
            obtain ⟨second, after⟩ := q
            split at h
            · simp only [Except.ok.injEq, Prod.mk.injEq] at h
              obtain ⟨-, rfl⟩ := h
              have := hexUnit_length hq
              simp at hr
              omega
            · contradiction
        · contradiction

theorem escape_length {cs rest : List Char} {c : Char} (h : escape cs = .ok (c, rest)) :
    rest.length < cs.length := by
  unfold escape at h
  split at h
  · contradiction
  · have := unicodeEscape_length h
    simp
    omega
  · split at h <;> first | contradiction | (cases h; simp)

/-- The text of a string and what follows its closing quote, from behind its opening quote. -/
def scanText (cs : List Char) : Except SyntaxError (List Char × List Char) :=
  match cs with
  | [] => .error .endInString
  | '"' :: rest => .ok ([], rest)
  | '\\' :: rest =>
    match _h : escape rest with
    | .error e => .error e
    | .ok (c, after) => do
      let (text, rest) ← scanText after
      .ok (c :: text, rest)
  | c :: rest =>
    if c.toNat < 0x20 then
      .error .controlCharacter
    else do
      let (text, rest) ← scanText rest
      .ok (c :: text, rest)
termination_by cs.length
decreasing_by
  · have := escape_length ‹_›
    simp
    omega
  · simp

theorem scanText_length {cs text rest : List Char} (h : scanText cs = .ok (text, rest)) :
    rest.length < cs.length := by
  fun_induction scanText cs generalizing text rest with
  | case1 => contradiction
  | case2 =>
    cases h
    simp
  | case3 => contradiction
  | case4 r c after he ih =>
    cases hs : scanText after with
    | error e => simp [hs, bind, Except.bind] at h
    | ok p =>
      have := escape_length he
      have := ih hs
      simp only [hs, bind, Except.bind, Except.ok.injEq, Prod.mk.injEq] at h
      simp only [List.length_cons, ← h.2]
      omega
  | case5 => contradiction
  | case6 c r _ _ _ ih =>
    cases hs : scanText r with
    | error e => simp [hs, bind, Except.bind] at h
    | ok p =>
      have := ih hs
      simp only [hs, bind, Except.bind, Except.ok.injEq, Prod.mk.injEq] at h
      simp only [List.length_cons, ← h.2]
      omega

/-- What follows `word` in a text that starts with it. -/
def expect (word cs : List Char) : Except SyntaxError (List Char) :=
  match word, cs with
  | [], cs => .ok cs
  | _ :: _, [] => .error .endInValue
  | w :: word, c :: cs => if c = w then expect word cs else .error .expectedLiteral

theorem expect_length {word cs rest : List Char} (h : expect word cs = .ok rest) :
    rest.length ≤ cs.length := by
  fun_induction expect word cs with
  | case1 => cases h; exact Nat.le_refl _
  | case2 => contradiction
  | case3 w word cs ih =>
    have := ih h
    simp
    omega
  | case4 => contradiction

/-- The literal `word` in a text that starts with it. -/
def literal (word : List Char) (value : Json) (cs : List Char) : Token × List Char :=
  match expect word cs with
  | .ok rest => (.scalar value, rest)
  | .error e => (.broken e, [])

/-- The string in a text that starts behind its opening quote. -/
def textToken (cs : List Char) : Token × List Char :=
  match scanText cs with
  | .ok (text, rest) => (.text (String.ofList text), rest)
  | .error e => (.brokenText e, [])

/-- The number in a text that starts with a sign or a digit. -/
def numberToken (cs : List Char) : Token × List Char :=
  match Literal.scan cs with
  | .error e => (.broken e, [])
  | .ok (l, rest) =>
    match l.number with
    | .ok n => (.scalar (.num n), rest)
    | .error e => (.broken e, [])

/-- The token that starts with `c`, and the text after it; no text is left after a broken token. -/
def nextToken (c : Char) (cs : List Char) : Token × List Char :=
  match c with
  | '[' => (.listOpen, cs)
  | ']' => (.listClose, cs)
  | '{' => (.objectOpen, cs)
  | '}' => (.objectClose, cs)
  | ':' => (.colon, cs)
  | ',' => (.comma, cs)
  | 'n' => literal ['u', 'l', 'l'] .null cs
  | 't' => literal ['r', 'u', 'e'] (.bool true) cs
  | 'f' => literal ['a', 'l', 's', 'e'] (.bool false) cs
  | '"' => textToken cs
  | c => if c = '-' ∨ c.isDigit then numberToken (c :: cs) else (.broken .expectedValue, [])

theorem literal_length (word : List Char) (value : Json) (cs : List Char) :
    (literal word value cs).2.length ≤ cs.length := by
  unfold literal
  split
  · exact expect_length ‹_›
  · simp

theorem textToken_length (cs : List Char) : (textToken cs).2.length ≤ cs.length := by
  unfold textToken
  split
  · exact Nat.le_of_lt (scanText_length ‹_›)
  · simp

theorem numberToken_length (c : Char) (cs : List Char) :
    (numberToken (c :: cs)).2.length ≤ cs.length := by
  unfold numberToken
  split
  · simp
  · have := Literal.scan_length ‹_›
    split
    · exact Nat.le_of_lt_succ this
    · simp

theorem nextToken_length (c : Char) (cs : List Char) : (nextToken c cs).2.length ≤ cs.length := by
  unfold nextToken
  split <;> try exact Nat.le_refl _
  · exact literal_length _ _ _
  · exact literal_length _ _ _
  · exact literal_length _ _ _
  · exact textToken_length _
  · split
    · exact numberToken_length _ _
    · simp

/-- The tokens of a text. -/
def tokens (cs : List Char) : List Token :=
  match cs with
  | [] => []
  | c :: cs =>
    if isGap c then
      tokens cs
    else
      (nextToken c cs).1 :: tokens (nextToken c cs).2
termination_by cs.length
decreasing_by
  · simp
  · have := nextToken_length c cs
    simp
    omega

end SchemaWorkbench.Json
