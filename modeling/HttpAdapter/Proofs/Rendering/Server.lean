import HttpAdapter.Proofs.Grammar.Blocks
import HttpAdapter.Proofs.Rendering.Docstring
import HttpAdapter.Rendering.Server

/-!
The class of a service and the handlers in it are statements of the language, whatever their
comments hold, if the names in them are names of the language and no line of a route closes the
docstring it stands in.
-/

namespace HttpAdapter

open Grammar Text

namespace Grammar

/-- Phrases with commas between them, in parentheses. -/
def inParens (phrases : List (List Token)) : List Token :=
  .symbol .leftParen :: (phrases.intersperse [.symbol .comma]).flatten ++ [Token.symbol .rightParen]

/-- Names as phrases. -/
def idents (names : List String) : List (List Token) := names.map fun name => [ident name]

/-- A call of an attribute, on a line of its own. -/
def callLine (name : String) (names : List String) (arguments : List (List Token)) : List Token :=
  ident name :: attributes names ++ inParens arguments ++ [Token.newline]

/-- The block behind the head of a compound statement. -/
def indented (ts : List Token) : List Token := .newline :: .indent :: (ts ++ [Token.dedent])

/-- An attempt with one handler, for exceptions by the name of `e`. -/
def attempt (body fault : List Token) : List Token :=
  .keyword .tryKw :: .symbol .colon :: indented body ++
    .keyword .exceptKw :: ident "Exception" :: .keyword .asKw :: ident "e" :: .symbol .colon ::
      indented fault

/-- The head of a method. -/
def methodHead (name : String) (parameters : List (List Token)) : List Token :=
  .keyword .defKw :: ident name :: inParens parameters ++ [Token.symbol .colon]

variable [Interpreter]

theorem opens_class (name : String) : Opens [.keyword .classKw, ident name, .symbol .colon] :=
  Opens.of_opens 0 (fun _ _ _ => rfl) (fun _ => rfl) rfl rfl

theorem opens_method (name : String) :
    Opens (methodHead name (idents ["self", "request", "response"])) :=
  Opens.of_opens 12 (fun _ _ _ => rfl) (fun _ => rfl) rfl rfl

end Grammar

section Lines

/-- What a handler gives to its method besides the argument. -/
def contextWord (requestContext : Bool) : Token :=
  if requestContext then ident "request" else .keyword .noneKw

/-- A line that calls a method of the service. -/
theorem scans_call {name ending : String} {ts : List Token} (named : isName name = true)
    (frame : isFrame "            grpc_resp = self.srv." ending = true)
    (ends : ending.toList.head?.any endsWord = true)
    (behind : Reads ⟨.between, (openAt [12, 8, 4]).blocks, []⟩ (ending.toList ++ ['\n'])
      (openAt [12, 8, 4]) ts) :
    Scans (openAt [8, 4]) ["            grpc_resp = self.srv." ++ name ++ ending]
      (openAt [12, 8, 4])
      (· = .indent :: ident "grpc_resp" :: .symbol .assign :: ident "self" ::
        attributes ["srv", name] ++ ts) := by
  have before : Reads (openAt [8, 4]) "            grpc_resp = self.srv.".toList
      ⟨.dot, (openAt [12, 8, 4]).blocks, []⟩
      [.indent, ident "grpc_resp", .symbol .assign, ident "self", .symbol .dot, ident "srv"] := rfl
  exact Scans.single (isWhole_frame frame (ne_lineEnd_of_isName named))
    (reads_memberHole named ends before behind)

theorem scans_callMethod {name : String} (named : isName name = true) (requestContext : Bool) :
    Scans (openAt [8, 4])
      ["            grpc_resp = self.srv." ++ name ++ "(arg, " ++
         (if requestContext then "request" else "None") ++ ")"]
      (openAt [12, 8, 4])
      (· = .indent :: ident "grpc_resp" :: .symbol .assign ::
        callLine "self" ["srv", name] [[ident "arg"], [contextWord requestContext]]) := by
  have joined (word : String) :
      "            grpc_resp = self.srv." ++ name ++ "(arg, " ++ word ++ ")" =
      "            grpc_resp = self.srv." ++ name ++ ("(arg, " ++ (word ++ ")")) := by
    simp only [String.append_assoc]
  rw [joined]
  cases requestContext with
  | false => exact scans_call named rfl rfl rfl
  | true => exact scans_call named rfl rfl rfl

theorem startsAt_classLine {className : String} (named : isName className = true) :
    StartsAt 0 ("class " ++ className ++ ":") :=
  startsAt_frame rfl rfl (ne_lineEnd_of_isName named)

/-- The line that opens a class has its keyword, the name and a colon. -/
theorem scans_classLine {className : String} (named : isName className = true) :
    Scans (openAt []) ["class " ++ className ++ ":"] (openAt [])
      (· = [.keyword .classKw, ident className, .symbol .colon] ++ [Token.newline]) := by
  have before : Reads (openAt []) "class ".toList ⟨.between, [], []⟩ [.keyword .classKw] := rfl
  have behind : Reads ⟨.between, [], []⟩ (":".toList ++ ['\n']) (openAt [])
      [.symbol .colon, .newline] := rfl
  exact Scans.single (startsAt_classLine named).whole
    (reads_hole named (by decide) before behind)

end Lines

variable [Interpreter]

section Handlers

/-- What a handler does with a fault. -/
def reportFault : List Token :=
  callLine "self" ["cdc", "write_error"] (idents ["response", "e"]) ++
    [Token.keyword .returnKw, .newline]

theorem forms_readRequest : Forms [8, 4]
    ["        try:",
     "            self.cdc.read_request(request, arg)",
     "        except Exception as e:",
     "            self.cdc.write_error(response, e)",
     "            return"] IsStatement :=
  Forms.fixed [12]
    (attempt (callLine "self" ["cdc", "read_request"] (idents ["request", "arg"])) reportFault)
    (IsStatement.of_attempt (fun _ _ _ => rfl) (fun _ => rfl) rfl rfl)
    rfl

theorem forms_callMethod {name : String} (named : isName name = true) (requestContext : Bool) :
    Forms [8, 4]
      ["        try:",
       "            grpc_resp = self.srv." ++ name ++ "(arg, " ++
         (if requestContext then "request" else "None") ++ ")",
       "        except Exception as e:",
       "            self.cdc.write_error(response, e)",
       "            return"] IsStatement := by
  have start : StartsAt 8 "        try:" := startsAt_of_isLine rfl
  have begins : Scans (openAt [8, 4]) ["        try:"] (openAt [8, 4])
      (· = [Token.keyword .tryKw, .symbol .colon, .newline]) := Scans.fixed rfl
  have ends : Scans (openAt [12, 8, 4])
      ["        except Exception as e:",
       "            self.cdc.write_error(response, e)",
       "            return"] (openAt [12, 8, 4])
      (· = .dedent :: .keyword .exceptKw :: ident "Exception" :: .keyword .asKw :: ident "e" ::
        .symbol .colon :: .newline :: .indent :: reportFault) :=
    Scans.fixed rfl
  have whole := begins.append_eq ((scans_callMethod named requestContext).append_eq ends)
  refine Forms.of_scans [12] start (by decide) whole ?_
  rintro ts rfl
  cases requestContext
  all_goals
    exact IsStatement.of_attempt (fun _ _ _ => rfl) (fun _ => rfl) rfl rfl

theorem forms_writeResponse :
    Forms [8, 4] ["        self.cdc.write_response(response, grpc_resp)"] IsStatement :=
  Forms.fixed [] (callLine "self" ["cdc", "write_response"] (idents ["response", "grpc_resp"]))
    (IsStatement.of_reads 12 (fun _ _ _ _ => rfl) (fun _ => rfl) rfl rfl) rfl

theorem forms_argument {text : String} (named : IsDotted text) :
    Forms [8, 4] ["        arg = " ++ text ++ "()"] IsStatement := by
  obtain ⟨first, others, rfl, start, members⟩ := named
  have inHole := ne_lineEnd_of_mem_join start members
  let blocks := (openAt [8, 4]).blocks
  have before : Reads (openAt [8, 4]) "        arg = ".toList ⟨.between, blocks, []⟩
      [ident "arg", .symbol .assign] := rfl
  have behind : Reads ⟨.between, blocks, []⟩ ['(', ')', '\n'] (openAt [8, 4])
      [.symbol .leftParen, .symbol .rightParen, .newline] := rfl
  have read : Reads (openAt [8, 4])
      (("        arg = " ++ join '.' (first :: others) ++ "()").toList ++ ['\n']) (openAt [8, 4])
      (ident "arg" :: .symbol .assign :: ident first :: (attributes others ++
        [Token.symbol .leftParen, .symbol .rightParen, .newline])) := by
    rw [String.toList_append, String.toList_append, List.append_assoc, List.append_assoc]
    exact before.append (reads_join start members (by decide) behind)
  have starts : StartsAt 8 ("        arg = " ++ join '.' (first :: others) ++ "()") :=
    startsAt_frame rfl rfl inHole
  exact Forms.single starts read (isStatement_assignCall (by decide) first others)

/-- A handler is a method of its class. -/
theorem forms_handler {h : HandlerOutline} {routes : List String} (named : isName h.name = true)
    (argument : IsDotted h.argument) (leaves : ∀ line ∈ routes, LeavesReader line)
    (requestContext : Bool) : Forms [4] (h.lines requestContext routes) IsStatement := by
  let docLines := h.comment.map (fun line => "        " ++ escapeDocstring line) ++ routes
  have inside : ∀ line ∈ docLines, LeavesReader line := by
    intro line member
    rcases List.mem_append.mp member with comment | route
    · exact leavesReader_comment (by decide) h.comment line comment
    · exact leaves line route
  have doc : Forms [8, 4] ("        \"\"\"" :: (docLines ++ ["        \"\"\""])) IsStatement :=
    Forms.docstring "        " rfl rfl rfl inside
  have calls := (forms_readRequest.cons
    ((forms_callMethod named requestContext).cons
      forms_writeResponse.statements.blank).ofBlock.blank)
  have body := doc.cons ((forms_argument argument).cons calls.ofBlock).ofBlock
  have starts : StartsAt 4 ("    def " ++ h.name ++ "(self, request, response):") :=
    startsAt_frame rfl rfl (ne_lineEnd_of_isName named)
  let blocks := (openAt [4]).blocks
  have before : Reads (openAt [4]) "    def ".toList ⟨.between, blocks, []⟩ [.keyword .defKw] := rfl
  have behind : Reads ⟨.between, blocks, []⟩ ("(self, request, response):".toList ++ ['\n'])
      (openAt [4])
      (inParens (idents ["self", "request", "response"]) ++ [Token.symbol .colon, .newline]) := rfl
  have head : Scans (openAt [4]) ["    def " ++ h.name ++ "(self, request, response):"] (openAt [4])
      (· = methodHead h.name (idents ["self", "request", "response"]) ++ [Token.newline]) :=
    Scans.single starts.whole (reads_hole named (by decide) before behind)
  have inner : StartsAt 8 "        \"\"\"" := startsAt_of_isLine rfl
  have whole := Forms.block [4] 8 starts head (opens_method h.name) body ⟨_, _, rfl, inner⟩
    (by decide) (by decide)
  simpa only [HandlerOutline.lines, docLines, List.append_assoc, List.cons_append,
    List.nil_append] using whole

end Handlers

section Services

theorem forms_init : Forms [4]
    ["    def __init__(self, srv, cdc: Codec):",
     "        self.srv = srv",
     "        self.cdc = cdc"] IsStatement :=
  Forms.fixed [8]
    (methodHead "__init__"
        [[ident "self"], [ident "srv"], [ident "cdc", .symbol .colon, ident "Codec"]] ++
      indented
        [ident "self", .symbol .dot, ident "srv", .symbol .assign, ident "srv", .newline,
         ident "self", .symbol .dot, ident "cdc", .symbol .assign, ident "cdc", .newline])
    (IsStatement.of_reads 20 (fun _ _ _ _ => rfl) (fun _ => rfl) rfl rfl) rfl

/-- The class of a service with its handlers. -/
theorem forms_class {s : ServiceOutline} {className : String} {handlers : List String}
    (named : isName className = true) (own : Forms [4] handlers AreStatements) :
    Forms [] (s.headLines className ++ handlers) IsStatement := by
  let docLines := s.comment.map fun line => "    " ++ escapeDocstring line
  have inside : ∀ line ∈ docLines, LeavesReader line :=
    leavesReader_comment (by decide) s.comment
  have doc : Forms [4] ("    \"\"\"" :: (docLines ++ ["    \"\"\""])) IsStatement :=
    Forms.docstring "    " rfl rfl rfl inside
  have body := doc.cons (forms_init.cons own).ofBlock.blank
  have inner : StartsAt 4 "    \"\"\"" := startsAt_of_isLine rfl
  have whole := Forms.block [] 4 (startsAt_classLine named) (scans_classLine named)
    (opens_class className) body ⟨_, _, rfl, inner⟩ (by decide) (by decide)
  simpa only [ServiceOutline.headLines, docLines, List.append_assoc, List.cons_append,
    List.nil_append] using whole

end Services

end HttpAdapter
