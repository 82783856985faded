import SchemaWorkbench.Client
import SchemaWorkbench.Proofs.Dialogue
import SchemaWorkbench.Proofs.Interchange.RoundTrip
import SchemaWorkbench.Proofs.Text.Blank

/-!
# Asking the generation service

A client asks the service one question at a time: one request is sent, nothing else of the host
changes, and the result depends on the status and the text of the answer alone. The request goes to
the URL of the client without the slashes that it ends with, and what it sends can be read back: the
schema and the dialect, or the SQL, as they were given. Nothing is said about the form of a URL: to
which ones requests are sent is a matter of the host.

What the service answers to a question about SQL is read after the whitespace around it is trimmed.
JSON knows fewer whitespace characters, so that nothing is left of them, and the answer is a truth
value exactly when it is one of the words for them.

## Main definitions

* `Reply.Delivers`: the text that is delivered for the body of an answer
* `Client.generateRequest`, `Client.validateRequest`: what is sent
* `Dialogue.Asks`: a dialogue that asks one question

## Main results

* `Client.exists_slashes_ofUrl`: a client has its URL without the slashes at the end
* `Json.readFlag_eq_ok_iff`: the texts that are read as a truth value
* `Client.sends_generate`: the request for SQL
* `Client.asks_generate`, `Client.asks_validate`: both questions, with their results
* `Client.questions_answered`: the requests and the results of a client
-/

namespace SchemaWorkbench

/-! ## The URL of a client -/

namespace Client

theorem toList_baseUrl_ofUrl (url : String) :
    (ofUrl url).baseUrl.toList = url.toList.rdropWhile (· = '/') := by
  rw [ofUrl, String.toList_ofList]
  rfl

/-- **A client has its URL without the slashes at the end**: they are all that is missing. -/
theorem exists_slashes_ofUrl (url : String) :
    (∃ n, url = (ofUrl url).baseUrl ++ String.ofList (List.replicate n '/')) ∧
      '/' ∉ (ofUrl url).baseUrl.toList.getLast? := by
  constructor
  · refine ⟨(url.toList.rtakeWhile (· = '/')).length, String.toList_inj.mp ?_⟩
    have hslashes : url.toList.rtakeWhile (· = '/') =
        List.replicate (url.toList.rtakeWhile (· = '/')).length '/' :=
      List.eq_replicate_iff.mpr ⟨rfl, fun c hc => by simpa using List.mem_rtakeWhile_imp hc⟩
    rw [String.toList_append, String.toList_ofList, toList_baseUrl_ofUrl, ← hslashes,
      List.rdropWhile_append_rtakeWhile]
  · rw [toList_baseUrl_ofUrl]
    intro hlast
    obtain ⟨hne, hslash⟩ := List.mem_getLast?_eq_getLast hlast
    have hnot := List.rdropWhile_last_not (fun c => decide (c = '/')) url.toList hne
    rw [← hslash] at hnot
    simp at hnot

end Client

/-! ## Answers -/

namespace Reply

/-- The text that is delivered for the body of an answer: the body, without one byte order mark if
it starts with one. -/
inductive Delivers : String → String → Prop
  | marked (text : String) : Delivers ("\uFEFF" ++ text) text
  | plain (text : String) (h : '\uFEFF' ∉ text.toList.head?) : Delivers text text

theorem Delivers.dropMark_eq {body text : String} (h : Delivers body text) :
    dropMark body = text := by
  cases h with
  | marked => rw [dropMark, String.toList_append]; exact String.ofList_toList
  | plain _ h =>
    rw [dropMark]
    split
    · rename_i cs hbody
      simp [hbody] at h
    · rfl

/-- The result of a question that was answered: the text if the status is one of success, and
otherwise both of them. -/
def outcome (status : Nat) (text : String) : Except ServiceError String :=
  if 200 ≤ status ∧ status ≤ 299 then .ok text else .error (.refused status text)

theorem granted_eq {status : Nat} {body text : String} (h : Delivers body text) :
    (answer status body).granted = outcome status text := by
  rw [granted, h.dropMark_eq, outcome]
  simp only [Nat.lt_succ_iff]

end Reply

/-! ## Truth values on their own -/

namespace Json

open Text

/-- JSON knows no whitespace but such as is whitespace everywhere. -/
theorem isWhitespace_of_isGap {c : Char} (h : isGap c) : isWhitespace c := by
  simp only [isGap, Bool.or_eq_true, beq_iff_eq] at h
  rcases h with ((rfl | rfl) | rfl) | rfl <;> decide

theorem tokens_eq_nil_iff {cs : List Char} : tokens cs = [] ↔ ∀ c ∈ cs, isGap c := by
  induction cs with
  | nil => simp [tokens]
  | cons c cs ih =>
    rw [tokens, List.forall_mem_cons]
    split
    · rename_i hc
      rw [ih, and_iff_right hc]
    · rename_i hc
      simp [hc]

theorem expect_eq_ok_iff {word cs rest : List Char} :
    expect word cs = .ok rest ↔ cs = word ++ rest := by
  fun_induction expect word cs with
  | case1 cs => simp
  | case2 => simp
  | case3 w word cs ih => simpa using ih
  | case4 w word c cs hne => simp [hne]

theorem literal_eq_scalar {word cs rest : List Char} {v w : Json}
    (h : literal word v cs = (.scalar w, rest)) : v = w ∧ cs = word ++ rest := by
  rw [literal] at h
  split at h
  · rename_i after hexpect
    cases h
    exact ⟨rfl, expect_eq_ok_iff.mp hexpect⟩
  · simp at h

theorem textToken_ne_flag (cs : List Char) (b : Bool) :
    (textToken cs).1 ≠ .scalar (.bool b) := by
  rw [textToken]
  split <;> simp

theorem numberToken_ne_flag (cs : List Char) (b : Bool) :
    (numberToken cs).1 ≠ .scalar (.bool b) := by
  rw [numberToken]
  split
  · simp
  · split <;> simp

/-- The token of a truth value is its word. -/
theorem eq_append_of_nextToken {c : Char} {cs rest : List Char} {b : Bool}
    (h : nextToken c cs = (.scalar (.bool b), rest)) : c :: cs = (toString b).toList ++ rest := by
  unfold nextToken at h
  split at h
  case h_7 => exact absurd (literal_eq_scalar h).1 (by simp)
  case h_8 =>
    obtain ⟨hb, rfl⟩ := literal_eq_scalar h
    rw [← Json.bool.inj hb]
    rfl
  case h_9 =>
    obtain ⟨hb, rfl⟩ := literal_eq_scalar h
    rw [← Json.bool.inj hb]
    rfl
  case h_10 => exact absurd (congrArg Prod.fst h) (textToken_ne_flag cs b)
  case h_11 =>
    split at h
    · exact absurd (congrArg Prod.fst h) (numberToken_ne_flag _ b)
    · simp at h
  all_goals simp at h

/-- A text is read as a truth value when that is its only token. -/
theorem readFlag_eq_ok_iff_tokens {cs : List Char} {b : Bool} :
    readFlag cs = .ok b ↔ tokens cs = [.scalar (.bool b)] := by
  unfold readFlag
  split
  case h_3 _ _ rest hrest htokens =>
    -- There is a token after the truth value.
    simpa [htokens] using fun _ => hrest
  case h_4 _ v _ _ hother htokens =>
    simpa [htokens] using fun hv => absurd hv (hother b)
  all_goals rename_i htokens; simp [htokens]

/-- **The texts that are read as a truth value**: of those without whitespace at their ends, the
words for one. -/
theorem readFlag_eq_ok_iff {cs : List Char} {b : Bool} (htrim : trim cs = cs) :
    readFlag cs = .ok b ↔ cs = (toString b).toList := by
  rw [readFlag_eq_ok_iff_tokens]
  constructor
  · intro htokens
    cases cs with
    | nil => simp [tokens] at htokens
    | cons c cs =>
      obtain ⟨hhead, hlast⟩ := trim_eq_self_iff.mp htrim
      have hgap : ¬ isGap c := fun hc => by
        simpa [isWhitespace_of_isGap hc] using hhead c rfl
      rw [tokens, if_neg hgap] at htokens
      obtain ⟨htoken, hrest⟩ := List.cons.inj htokens
      have hword : c :: cs = (toString b).toList ++ (nextToken c cs).2 :=
        eq_append_of_nextToken (Prod.ext htoken rfl)
      -- Only whitespace may follow the word, and the text does not end with any.
      rw [tokens_eq_nil_iff] at hrest
      cases hlastRest : (nextToken c cs).2.getLast? with
      | none => rw [hword, List.getLast?_eq_none_iff.mp hlastRest, List.append_nil]
      | some d =>
        have hd : isWhitespace d :=
          isWhitespace_of_isGap (hrest d (List.mem_of_getLast? hlastRest))
        have hend := hlast d (by rw [hword, List.getLast?_append, hlastRest]; rfl)
        rw [hd] at hend
        contradiction
  · rintro rfl
    -- The word is what is printed for the truth value.
    have hread := tokens_print Layout.blank_dense (.bool b : Plain 0 (.bool b)) 0 []
    have hend : tokens [] = [] := tokens_eq_nil_iff.mpr (by simp)
    rw [List.append_nil, hend] at hread
    cases b with
    | false => exact hread
    | true => exact hread

end Json

/-! ## Questions -/

/-- The dialogue asks one question. A host that reaches the URL gets the request and no other, and
nothing else of it changes; `P` holds of the status of the answer, of the text that is delivered and
of the result. -/
def Dialogue.Asks {α : Type} (d : Dialogue α) (request : Request) (P : Nat → String → α → Prop) :
    Prop :=
  ∀ (h : Host) (status : Nat) (body text : String), h.Reaches request.url →
    h.service (h.requests ++ [request]) = .answer status body → Reply.Delivers body text →
      ∃ a, P status text a ∧ d.run h = (a, { h with requests := h.requests ++ [request] })

namespace Client

variable (client : Client) (s : Schema) (d : Dialect) (sql : String)

/-- The request for the SQL of a schema in a dialect. -/
def generateRequest : Request :=
  ⟨client.baseUrl ++ "/generate", generateBody s d⟩

/-- The request that asks about some SQL. -/
def validateRequest : Request :=
  ⟨client.baseUrl ++ "/validate", validateBody sql⟩

theorem asks_ask (url : String) (body : Json) :
    (ask url body).Asks ⟨url, body⟩ fun status text r => r = Reply.outcome status text := by
  intro h status body' text hreaches hservice hdelivers
  refine ⟨_, rfl, ?_⟩
  rw [ask, Dialogue.run, hreaches]
  simp only [hservice, Reply.granted_eq hdelivers]
  rfl

/-- Asking for SQL is one request. -/
theorem sends_generate : (client.generate s d).Sends [client.generateRequest s d] :=
  fun _ => rfl

/-- A question only reads. -/
theorem keeps_generate : (client.generate s d).Keeps :=
  Dialogue.keeps_post _ _

theorem asks_generate : (client.generate s d).Asks (client.generateRequest s d)
    fun status text r => r = Reply.outcome status text :=
  asks_ask _ _

/-- A text is read as a truth value if it is the word for one, apart from the whitespace around it,
and otherwise it is no answer to the question. -/
theorem verdict_cases (text : String) :
    (∀ b : Bool, verdict text = .ok b ↔ Text.trim text.toList = (toString b).toList) ∧
      ((∀ b : Bool, Text.trim text.toList ≠ (toString b).toList) →
        ∃ reason, verdict text = .error (.failed reason)) := by
  have hok (b : Bool) : verdict text = .ok b ↔ Text.trim text.toList = (toString b).toList := by
    rw [verdict, mapError_eq_ok_iff, Json.readFlag_eq_ok_iff (Text.trim_trim _)]
  refine ⟨hok, fun hother => ?_⟩
  cases hread : Json.readFlag (Text.trim text.toList) with
  | ok b => exact absurd ((hok b).mp (by rw [verdict, hread]; rfl)) (hother b)
  | error e => exact ⟨_, by rw [verdict, hread]; rfl⟩

theorem asks_validate : (client.validate sql).Asks (client.validateRequest sql)
    fun status text r => r = (Reply.outcome status text).bind verdict := by
  intro h status body text hreaches hservice hdelivers
  obtain ⟨_, rfl, hrun⟩ := asks_ask _ _ h status body text hreaches hservice hdelivers
  refine ⟨_, rfl, ?_⟩
  rw [validate, Dialogue.run_bind, hrun]
  rfl

/-! ## What is sent -/

theorem plain_generateBody : Json.Plain Json.nestingLimit (generateBody s d) := by
  refine .obj ?_
  simp only [List.forall_mem_cons]
  exact ⟨Json.plain_map (Table.plain_toJson 122) s, .str _, by simp⟩

theorem plain_validateBody : Json.Plain Json.nestingLimit (validateBody sql) := by
  refine .obj ?_
  simp only [List.forall_mem_cons]
  exact ⟨.str _, by simp⟩

end Client

/-- **The requests and the results of a client.** A client asks below its URL without the slashes at
the end. For the SQL of a schema it sends one request, whose text on one line reads back as an
object with the schema and the exact name of the dialect, and the result is the text of the answer
if the status is one of success; otherwise it is both of them. About some SQL it sends one request
with the SQL as it is; after a status of success the result is a truth value exactly when the text
is its word, apart from the whitespace around it, and otherwise a failure. -/
theorem Client.questions_answered (url : String) :
    ((∃ n, url = (ofUrl url).baseUrl ++ String.ofList (List.replicate n '/')) ∧
        '/' ∉ (ofUrl url).baseUrl.toList.getLast?) ∧
      (∀ (s : Schema) (d : Dialect), ∃ body : Json,
        ((ofUrl url).generate s d).Asks ⟨(ofUrl url).baseUrl ++ "/generate", body⟩
            (fun status text r =>
              r = if 200 ≤ status ∧ status ≤ 299 then .ok text
                else .error (.refused status text)) ∧
          Json.read body.compact = .ok body ∧
          (body.member? "tables").map Schema.ofJson = some (.ok s) ∧
          body.member? "dialect" = some (.str d.name)) ∧
      ∀ sql : String, ∃ body : Json,
        ((ofUrl url).validate sql).Asks ⟨(ofUrl url).baseUrl ++ "/validate", body⟩
            (fun status text r =>
              if 200 ≤ status ∧ status ≤ 299 then
                (∀ b : Bool, r = .ok b ↔ Text.trim text.toList = (toString b).toList) ∧
                  ((∀ b : Bool, Text.trim text.toList ≠ (toString b).toList) →
                    ∃ reason, r = .error (.failed reason))
              else r = .error (.refused status text)) ∧
          Json.read body.compact = .ok body ∧ body.member? "sql" = some (.str sql) := by
  refine ⟨exists_slashes_ofUrl url, fun s d => ?_, fun sql => ?_⟩
  · refine ⟨generateBody s d, asks_generate _ s d, ?_, ?_, ?_⟩
    · exact Json.read_compact (plain_generateBody s d)
    · exact congrArg some (Schema.ofJson_toJson s)
    · rfl
  · refine ⟨validateBody sql, ?_, Json.read_compact (plain_validateBody sql), rfl⟩
    intro h status body text hreaches hservice hdelivers
    obtain ⟨r, rfl, hrun⟩ := asks_validate _ sql h status body text hreaches hservice hdelivers
    refine ⟨_, ?_, hrun⟩
    rw [Reply.outcome]
    split
    · exact verdict_cases text
    · rfl

/-- The slashes of the URL are gone and so is the byte order mark of the answer; the whitespace
around the word is none that JSON knows. -/
theorem Client.valid_with_wide_spaces :
    let client := ofUrl "http://localhost:8080/api/sql//"
    let h : Host := { obstacle := fun _ => none
                      service := fun _ => .answer 200 ("\uFEFF" ++ "\u00A0true\u3000") }
    h.Reaches "http://localhost:8080/api/sql/validate" ∧
      ∃ body, ((client.validate "SELECT 1").run h).1 = .ok true ∧
        ((client.validate "SELECT 1").run h).2.requests =
          [⟨"http://localhost:8080/api/sql/validate", body⟩] ∧
        body.member? "sql" = some (.str "SELECT 1") := by
  intro client h
  have hbase : client.baseUrl ++ "/validate" = "http://localhost:8080/api/sql/validate" := by
    decide +kernel
  have hreaches : h.Reaches "http://localhost:8080/api/sql/validate" := rfl
  obtain ⟨-, -, hvalidate⟩ := questions_answered "http://localhost:8080/api/sql//"
  obtain ⟨body, hasks, -, hsql⟩ := hvalidate "SELECT 1"
  obtain ⟨r, ⟨hverdict, -⟩, hrun⟩ :=
    hasks h 200 _ "\u00A0true\u3000" (hbase ▸ hreaches) rfl (.marked _)
  refine ⟨hreaches, body, ?_, ?_, hsql⟩
  · rw [hrun]
    exact (hverdict true).mpr (by decide +kernel)
  · rw [hrun, ← hbase]
    rfl

end SchemaWorkbench
