import HttpAdapter.ModulePath
import HttpAdapter.Proofs.Rendering.Server
import HttpAdapter.Rendering.Module

/-!
The other parts of a generated module are statements of the language as well: its imports, the
options of a router, and the class that dispatches to a service by a table with a line for each
handler.
-/

namespace HttpAdapter

open Grammar Text

section Lines

variable {key name bound : String}

/-- The inside of the table of routes: the start of a line in open braces. -/
def inTable : Spot := ⟨.margin .start, (openAt [8, 4]).blocks, [.curly]⟩

/-- A name in lower case ends no literal. -/
theorem not_mem_breaks_of_mem_lower {name : String} (named : isName name = true) :
    ∀ c ∈ (lower name).toList, c ∉ breaks := by
  intro c member special
  have inName := mem_of_mem_lower special member
  exact not_mem_breaks_of_isNameChar (isNameChar_of_isName named inName) special

/-- The key of a route ends no literal. -/
theorem not_mem_breaks_of_mem_routeKey {service handler : String} (named : isName service = true)
    (handlerNamed : isName handler = true) :
    ∀ c ∈ (lower service ++ "/" ++ lower handler).toList, c ∉ breaks := by
  intro c member
  have slash : "/".toList = ['/'] := rfl
  simp only [String.toList_append, List.mem_append, slash, List.mem_singleton] at member
  rcases member with (inService | rfl) | inHandler
  · exact not_mem_breaks_of_mem_lower named c inService
  · decide
  · exact not_mem_breaks_of_mem_lower handlerNamed c inHandler

/-- A line of the table holds no line end. -/
theorem isWhole_routeLine (inKey : ∀ c ∈ key.toList, c ∉ breaks) (named : isName name = true) :
    IsWhole ("            \"/" ++ key ++ "\": self.srv." ++ name ++ ",") := by
  have nested : "            \"/" ++ key ++ "\": self.srv." ++ name ++ "," =
      "            \"/" ++ (key ++ "\": self.srv." ++ name) ++ "," := by
    simp only [String.append_assoc]
  rw [nested]
  refine isWhole_frame rfl ?_
  intro c member
  simp only [String.toList_append, List.mem_append] at member
  rcases member with (inside | behind) | inName
  · have plain := inKey c inside
    simp only [breaks, List.mem_cons, List.not_mem_nil, or_false, not_or] at plain
    exact ⟨plain.2.2.1, plain.2.2.2.1⟩
  · have fixed : ("\": self.srv.".toList.all fun c => c != '\n' && c != '\r') = true := rfl
    exact ne_lineEnd_of_all fixed c behind
  · exact ne_lineEnd_of_isName named c inName

/-- A line of the table is read as a text and a member of the service. -/
theorem reads_routeLine (inKey : ∀ c ∈ key.toList, c ∉ breaks) (named : isName name = true) :
    Reads inTable (("            \"/" ++ key ++ "\": self.srv." ++ name ++ ",").toList ++ ['\n'])
      inTable (entry ('/' :: key.toList) "self" "srv" name) := by
  let blocks := (openAt [8, 4]).blocks
  let literal (reversed : List Char) : Spot :=
    ⟨.text plainKind '"' false 0 reversed, blocks, [.curly]⟩
  have start : Reads inTable "            \"/".toList (literal ['/']) [] := rfl
  have inside : Reads (literal ['/']) key.toList (literal (key.toList.reverse ++ ['/'])) [] :=
    reads_text ['/'] inKey
  have close (reversed : List Char) : Reads (literal reversed) "\": self.srv.".toList
      ⟨.dot, blocks, [.curly]⟩
      [.literal ⟨false, false, false, reversed.reverse⟩, .symbol .colon, ident "self",
       .symbol .dot, ident "srv"] := rfl
  have before := start.append (inside.append (close _))
  rw [List.reverse_append, List.reverse_reverse, ← List.append_assoc, ← String.toList_append,
    ← String.toList_append] at before
  have behind : Reads ⟨.between, blocks, [.curly]⟩ (",".toList ++ ['\n']) inTable
      [.symbol .comma] := rfl
  exact reads_memberHole named rfl before behind

/-- What follows the module in a line that imports it. -/
theorem reads_boundName (named : isName bound = true) :
    Reads ⟨.between, [], []⟩ (' ' :: 'a' :: 's' :: ' ' :: (bound.toList ++ ['\n'])) (openAt [])
      [.keyword .asKw, ident bound, .newline] := by
  have behind : Reads ⟨.between, [], []⟩ ['\n'] (openAt []) [.newline] := rfl
  have before : Reads ⟨.between, [], []⟩ [' ', 'a', 's', ' '] ⟨.between, [], []⟩
    [.keyword .asKw] := rfl
  exact before.append (reads_name named (by decide) behind)

/-- A line that ends in a name. -/
theorem startsAt_importLine (front : String) {middle : String}
    (margin : hasMargin 0 front.toList = true)
    (inFront : (front.toList.all fun c => c != '\n' && c != '\r') = true)
    (inMiddle : ∀ c ∈ middle.toList, c ≠ '\n' ∧ c ≠ '\r') (named : isName bound = true) :
    StartsAt 0 (front ++ (middle ++ " as ") ++ bound) where
  whole := by
    refine isWhole_append (ne_empty_of_isName named) (trimEndChars_of_isName named) ?_
      (ne_lineEnd_of_isName named)
    intro c member
    simp only [String.toList_append, List.mem_append] at member
    rcases member with inside | inside | inside
    · exact ne_lineEnd_of_all inFront c inside
    · exact inMiddle c inside
    · have fixed : (" as ".toList.all fun c => c != '\n' && c != '\r') = true := rfl
      exact ne_lineEnd_of_all fixed c inside
  text := by
    rw [String.append_assoc, String.toList_append]
    exact text_of_hasMargin margin _

end Lines

variable [Interpreter]

section Options

/-- An annotation for values that may be missing. -/
def optional (ts : List Token) : List Token :=
  [ident "Optional", .symbol .leftBracket] ++ ts ++ [Token.symbol .rightBracket]

/-- The annotation of a table of routes whose handlers may be missing. -/
def routesAnnotation : List Token :=
  [ident "Dict", .symbol .leftBracket, ident "str", .symbol .comma] ++ optional [ident "Handler"] ++
    [Token.symbol .rightBracket]

theorem forms_importCodec :
    Forms [] ["from protoc_gen_httprpc.codec import Codec"] IsStatement :=
  Forms.fixed []
    [.keyword .fromKw, ident "protoc_gen_httprpc", .symbol .dot, ident "codec", .keyword .importKw,
     ident "Codec", .newline]
    (IsStatement.of_reads 12 (fun _ _ _ _ => rfl) (fun _ => rfl) rfl rfl) rfl

theorem forms_importBuilder :
    Forms [] ["from protoc_gen_httprpc.codec import Codec, CodecBuilder"] IsStatement :=
  Forms.fixed []
    [.keyword .fromKw, ident "protoc_gen_httprpc", .symbol .dot, ident "codec", .keyword .importKw,
     ident "Codec", .symbol .comma, ident "CodecBuilder", .newline]
    (IsStatement.of_reads 12 (fun _ _ _ _ => rfl) (fun _ => rfl) rfl rfl) rfl

theorem forms_importTyping :
    Forms [] ["from typing import Any, Callable, Dict, Optional"] IsStatement :=
  Forms.fixed []
    [.keyword .fromKw, ident "typing", .keyword .importKw, ident "Any", .symbol .comma,
     ident "Callable", .symbol .comma, ident "Dict", .symbol .comma, ident "Optional", .newline]
    (IsStatement.of_reads 12 (fun _ _ _ _ => rfl) (fun _ => rfl) rfl rfl) rfl

theorem forms_handlerType : Forms [] ["Handler = Callable[[Any, Any], None]"] IsStatement :=
  Forms.fixed []
    [ident "Handler", .symbol .assign, ident "Callable", .symbol .leftBracket,
     .symbol .leftBracket, ident "Any", .symbol .comma, ident "Any", .symbol .rightBracket,
     .symbol .comma, .keyword .noneKw, .symbol .rightBracket, .newline]
    (IsStatement.of_reads 20 (fun _ _ _ _ => rfl) (fun _ => rfl) rfl rfl) rfl

theorem forms_optionsInit : Forms [4]
    ["    def __init__(self):",
     "        self.routes: Optional[Dict[str, Optional[Handler]]] = \x7b\x7d",
     "        self.with_swagger = False"] IsStatement :=
  Forms.fixed [8]
    (methodHead "__init__" (idents ["self"]) ++
      indented
        ([ident "self", .symbol .dot, ident "routes", .symbol .colon] ++
          optional routesAnnotation ++
          [.symbol .assign, .symbol .leftBrace, .symbol .rightBrace, .newline, ident "self",
           .symbol .dot, ident "with_swagger", .symbol .assign, .keyword .falseKw, .newline]))
    (IsStatement.of_reads 30 (fun _ _ _ _ => rfl) (fun _ => rfl) rfl rfl) rfl

theorem forms_optionsValidate : Forms [4]
    ["    def validate(self):",
     "        if self.routes is None:",
     "            raise ValueError('nil routes were provided')"] IsStatement :=
  Forms.fixed [12, 8]
    (methodHead "validate" (idents ["self"]) ++
      indented
        ([.keyword .ifKw, ident "self", .symbol .dot, ident "routes", .keyword .isKw,
          .keyword .noneKw, .symbol .colon] ++
          indented
            ([.keyword .raiseKw, ident "ValueError"] ++
              inParens [[.literal ⟨false, false, false, "nil routes were provided".toList⟩]] ++
              [Token.newline])))
    (IsStatement.of_reads 30 (fun _ _ _ _ => rfl) (fun _ => rfl) rfl rfl) rfl

theorem forms_options : Forms []
    ["class Options:",
     "",
     "    def __init__(self):",
     "        self.routes: Optional[Dict[str, Optional[Handler]]] = \x7b\x7d",
     "        self.with_swagger = False",
     "",
     "    def validate(self):",
     "        if self.routes is None:",
     "            raise ValueError('nil routes were provided')"] IsStatement := by
  have head : Scans (openAt []) ["class Options:", ""] (openAt [])
      (· = [.keyword .classKw, ident "Options", .symbol .colon] ++ [Token.newline]) :=
    Scans.fixed rfl
  have starts : StartsAt 0 "class Options:" := startsAt_of_isLine rfl
  have inner : StartsAt 4 "    def __init__(self):" := startsAt_of_isLine rfl
  exact Forms.block [] 4 starts head (opens_class "Options")
    (forms_optionsInit.cons forms_optionsValidate.statements.blank) ⟨_, _, rfl, inner⟩
    (by decide) (by decide)

theorem forms_applyRoutes : Forms [4]
    ["    def apply(opts: Options):",
     "        opts.routes = routes",
     "    return apply"] AreStatements :=
  Forms.fixed []
    ((methodHead "apply" [[ident "opts", .symbol .colon, ident "Options"]] ++
        indented
          [ident "opts", .symbol .dot, ident "routes", .symbol .assign, ident "routes",
           .newline]) ++
      [.keyword .returnKw, ident "apply", .newline])
    (AreStatements.append
      (IsStatement.of_reads 20 (fun _ _ _ _ => rfl) (fun _ => rfl) rfl rfl).single
      (IsStatement.of_reads 12 (fun _ _ _ _ => rfl) (fun _ => rfl) rfl rfl).single)
    rfl

theorem forms_withRoutes : Forms []
    ["def with_routes(routes: Dict[str, Optional[Handler]]):",
     "    \"\"\"",
     "    为指定的路由设置处理函数",
     "",
     "    处理函数为 None 时删除该路由",
     "    \"\"\"",
     "    def apply(opts: Options):",
     "        opts.routes = routes",
     "    return apply"] IsStatement := by
  have head : Scans (openAt []) ["def with_routes(routes: Dict[str, Optional[Handler]]):"]
      (openAt [])
      (· = methodHead "with_routes" [[ident "routes", .symbol .colon] ++ routesAnnotation] ++
        [Token.newline]) :=
    Scans.fixed rfl
  have opens : Opens (methodHead "with_routes"
      [[ident "routes", .symbol .colon] ++ routesAnnotation]) :=
    Opens.of_opens 20 (fun _ _ _ => rfl) (fun _ => rfl) rfl rfl
  let docLines := ["    为指定的路由设置处理函数", "", "    处理函数为 None 时删除该路由"]
  have leaves : ∀ line ∈ docLines, LeavesReader line := by
    intro line member
    apply leavesReader_of_plain
    revert line
    decide
  have doc : Forms [4] ("    \"\"\"" :: (docLines ++ ["    \"\"\""])) IsStatement :=
    Forms.docstring "    " rfl rfl rfl leaves
  have starts : StartsAt 0 "def with_routes(routes: Dict[str, Optional[Handler]]):" :=
    startsAt_of_isLine rfl
  have inner : StartsAt 4 "    \"\"\"" := startsAt_of_isLine rfl
  exact Forms.block [] 4 starts head opens (doc.cons forms_applyRoutes) ⟨_, _, rfl, inner⟩
    (by decide) (by decide)

theorem forms_withSwagger : Forms []
    ["def with_swagger():",
     "    def apply(opts: Options):",
     "        opts.with_swagger = True",
     "    return apply"] IsStatement :=
  Forms.fixed [4]
    (methodHead "with_swagger" [] ++
      indented
        (methodHead "apply" [[ident "opts", .symbol .colon, ident "Options"]] ++
          indented
            [ident "opts", .symbol .dot, ident "with_swagger", .symbol .assign,
             .keyword .trueKw, .newline] ++
          [.keyword .returnKw, ident "apply", .newline]))
    (IsStatement.of_reads 30 (fun _ _ _ _ => rfl) (fun _ => rfl) rfl rfl) rfl

end Options

section Dispatch

/-- A text that nothing ends holds no escapes that are not complete. -/
theorem escapesComplete_of_not_mem_breaks {cs : List Char} (inText : ∀ c ∈ cs, c ∉ breaks) :
    escapesComplete false cs = true := by
  have read : readLiteral .start cs = some .start := by
    apply readLiteral_of_plain
    intro c member
    have plain := inText c member
    simp only [breaks, List.mem_cons, List.not_mem_nil, or_false, not_or] at plain
    exact ⟨plain.1, plain.2.1⟩
  rw [escapesComplete, foldlM_plain_of_readLiteral read]
  rfl

/-- The line of a handler is an entry of the table of routes. -/
theorem scans_routeLine {service : String} {h : HandlerOutline} (named : isName service = true)
    (handlerNamed : isName h.name = true) :
    Scans inTable [routeLine service h] inTable AreEntries := by
  have inKey := not_mem_breaks_of_mem_routeKey named handlerNamed
  have line : routeLine service h = "            \"/" ++
      (lower service ++ "/" ++ lower h.name) ++ "\": self.srv." ++ h.name ++ "," := by
    have quote : "            \"" ++ "/" = "            \"/" := rfl
    delta routeLine routeKey
    simp only [← String.append_assoc, quote]
  rw [line]
  refine (Scans.single (isWhole_routeLine inKey handlerNamed)
    (reads_routeLine inKey handlerNamed)).mono ?_
  rintro ts rfl
  have inText : ∀ c ∈ '/' :: (lower service ++ "/" ++ lower h.name).toList, c ∉ breaks := by
    rw [List.forall_mem_cons]
    exact ⟨by decide, inKey⟩
  exact AreEntries.cons (escapesComplete_of_not_mem_breaks inText) AreEntries.nil

/-- The table of routes, with entries on lines of their own. -/
theorem forms_table {table : List String}
    (entries : ∀ line ∈ table, Scans inTable [line] inTable AreEntries) : Forms [8, 4]
    ("        self.routes: Dict[str, Handler] = \x7b" :: (table ++ ["        \x7d"]))
    IsStatement := by
  have starts : StartsAt 8 "        self.routes: Dict[str, Handler] = \x7b" :=
    startsAt_of_isLine rfl
  have head : Scans (openAt [8, 4]) ["        self.routes: Dict[str, Handler] = \x7b"] inTable
      (· = tableHead) := Scans.fixed rfl
  have lines : Scans inTable (table.flatMap fun line => [line]) inTable AreEntries :=
    Scans.flatMap entries AreEntries.nil fun _ _ => AreEntries.append
  rw [List.flatMap_singleton'] at lines
  have close : Scans inTable ["        \x7d"] (openAt [8, 4])
      (· = [Token.symbol .rightBrace, .newline]) := Scans.fixed rfl
  have whole := head.append (R := IsStatement) (lines.append close (R := fun ts =>
    ∃ us, AreEntries us ∧ ts = us ++ [Token.symbol .rightBrace, .newline]) (by
      rintro us _ entries rfl
      exact ⟨us, entries, rfl⟩)) (by
    rintro _ _ rfl ⟨us, entries, rfl⟩
    exact entries.isStatement)
  refine Forms.of_scans [] starts (by simp) whole ?_
  intro ts statement
  rw [closing, List.length_nil, List.replicate_zero, List.append_nil]
  exact statement

/-- The line that makes the server of a service. -/
theorem forms_makeServer {className : String} (named : isName className = true) :
    Forms [8, 4] ["        self.srv = " ++ className ++ "(srv, codec_builder())"] IsStatement := by
  let blocks := (openAt [8, 4]).blocks
  have before : Reads (openAt [8, 4]) "        self.srv = ".toList ⟨.between, blocks, []⟩
      [ident "self", .symbol .dot, ident "srv", .symbol .assign] := rfl
  have behind : Reads ⟨.between, blocks, []⟩ ("(srv, codec_builder())".toList ++ ['\n'])
      (openAt [8, 4])
      (inParens [[ident "srv"], ident "codec_builder" :: inParens []] ++ [Token.newline]) := rfl
  have starts : StartsAt 8 ("        self.srv = " ++ className ++ "(srv, codec_builder())") :=
    startsAt_frame rfl rfl (ne_lineEnd_of_isName named)
  have read := reads_hole named (by decide) before behind
  exact Forms.single starts read
    (IsStatement.of_reads 20 (fun _ _ _ _ => rfl) (fun _ => rfl) rfl rfl)

theorem forms_setBuilder :
    Forms [8, 4] ["        self.codec_builder = codec_builder"] IsStatement :=
  Forms.fixed []
    [ident "self", .symbol .dot, ident "codec_builder", .symbol .assign, ident "codec_builder",
     .newline]
    (IsStatement.of_reads 12 (fun _ _ _ _ => rfl) (fun _ => rfl) rfl rfl) rfl

theorem forms_makeOptions : Forms [8, 4] ["        options = Options()"] IsStatement :=
  Forms.fixed [] ([ident "options", .symbol .assign] ++ callLine "Options" [] [])
    (IsStatement.of_reads 12 (fun _ _ _ _ => rfl) (fun _ => rfl) rfl rfl) rfl

theorem forms_applyOptions : Forms [8, 4]
    ["        for opt in opts:",
     "            opt(options)"] IsStatement :=
  Forms.fixed [12]
    ([.keyword .forKw, ident "opt", .keyword .inKw, ident "opts", .symbol .colon] ++
      indented (callLine "opt" [] (idents ["options"])))
    (IsStatement.of_loop (fun _ _ _ => rfl) (fun _ => rfl) rfl rfl)
    rfl

theorem forms_validateOptions : Forms [8, 4] ["        options.validate()"] IsStatement :=
  Forms.fixed [] (callLine "options" ["validate"] [])
    (IsStatement.of_reads 12 (fun _ _ _ _ => rfl) (fun _ => rfl) rfl rfl) rfl

theorem forms_setRoutes : Forms [8, 4]
    ["        for route, handler in options.routes.items():",
     "            if handler is None:",
     "                self.routes.pop(route, None)",
     "                continue",
     "            self.routes[route] = handler"] IsStatement :=
  Forms.fixed [12]
    ([.keyword .forKw, ident "route", .symbol .comma, ident "handler", .keyword .inKw,
      ident "options"] ++ attributes ["routes", "items"] ++ inParens [] ++ [Token.symbol .colon] ++
      indented
        ([.keyword .ifKw, ident "handler", .keyword .isKw, .keyword .noneKw, .symbol .colon] ++
          indented
            (callLine "self" ["routes", "pop"] [[ident "route"], [.keyword .noneKw]] ++
              [Token.keyword .continueKw, .newline]) ++
          [ident "self", .symbol .dot, ident "routes", .symbol .leftBracket, ident "route",
           .symbol .rightBracket, .symbol .assign, ident "handler", .newline]))
    (IsStatement.of_loop (fun _ _ _ => rfl) (fun _ => rfl) rfl rfl)
    rfl

theorem forms_makeCodec : Forms [8, 4] ["        c = self.codec_builder()"] IsStatement :=
  Forms.fixed [] ([ident "c", .symbol .assign] ++ callLine "self" ["codec_builder"] [])
    (IsStatement.of_reads 12 (fun _ _ _ _ => rfl) (fun _ => rfl) rfl rfl) rfl

theorem forms_findRoute : Forms [8, 4]
    ["        try:",
     "            route = c.route(request)",
     "        except Exception as e:",
     "            c.write_error(response, e)",
     "            return"] IsStatement :=
  Forms.fixed [12]
    (attempt ([ident "route", .symbol .assign] ++ callLine "c" ["route"] (idents ["request"]))
      (callLine "c" ["write_error"] (idents ["response", "e"]) ++
        [Token.keyword .returnKw, .newline]))
    (IsStatement.of_attempt (fun _ _ _ => rfl) (fun _ => rfl) rfl rfl)
    rfl

theorem forms_findHandler :
    Forms [8, 4] ["        handler = self.routes.get(route)"] IsStatement :=
  Forms.fixed []
    ([ident "handler", .symbol .assign] ++ callLine "self" ["routes", "get"] (idents ["route"]))
    (IsStatement.of_reads 12 (fun _ _ _ _ => rfl) (fun _ => rfl) rfl rfl) rfl

theorem forms_reportRoute : Forms [8, 4]
    ["        if handler is None:",
     "            c.write_error(response, LookupError(f'no handler for route \x7broute\x7d'))",
     "            return"] IsStatement :=
  Forms.fixed [12]
    ([.keyword .ifKw, ident "handler", .keyword .isKw, .keyword .noneKw, .symbol .colon] ++
      indented
        (callLine "c" ["write_error"]
            [[ident "response"],
             ident "LookupError" :: inParens
               [[.literal ⟨false, false, true, "no handler for route \x7broute\x7d".toList⟩]]] ++
          [Token.keyword .returnKw, .newline]))
    (IsStatement.of_condition (fun _ _ _ => rfl) (fun _ => rfl) rfl rfl)
    rfl

theorem forms_callHandler : Forms [8, 4] ["        handler(request, response)"] IsStatement :=
  Forms.fixed [] (callLine "handler" [] (idents ["request", "response"]))
    (IsStatement.of_reads 12 (fun _ _ _ _ => rfl) (fun _ => rfl) rfl rfl) rfl

/-- The method that sets up the dispatch to a service. -/
theorem forms_setUp {className : String} {table : List String} (named : isName className = true)
    (entries : ∀ line ∈ table, Scans inTable [line] inTable AreEntries) : Forms [4]
    (["    def __init__(self, srv, codec_builder: CodecBuilder, *opts):",
      "        self.srv = " ++ className ++ "(srv, codec_builder())",
      "        self.codec_builder = codec_builder",
      "",
      "        options = Options()",
      "        for opt in opts:",
      "            opt(options)",
      "        options.validate()",
      "",
      "        self.routes: Dict[str, Handler] = \x7b"] ++
    table ++
    ["        \x7d",
      "",
      "        for route, handler in options.routes.items():",
      "            if handler is None:",
      "                self.routes.pop(route, None)",
      "                continue",
      "            self.routes[route] = handler"]) IsStatement := by
  let parameters : List (List Token) :=
    [[ident "self"], [ident "srv"], [ident "codec_builder", .symbol .colon, ident "CodecBuilder"],
     [.symbol .star, ident "opts"]]
  have opens : Opens (methodHead "__init__" parameters) :=
    Opens.of_opens 20 (fun _ _ _ => rfl) (fun _ => rfl) rfl rfl
  have starts : StartsAt 4 "    def __init__(self, srv, codec_builder: CodecBuilder, *opts):" :=
    startsAt_of_isLine rfl
  have head : Scans (openAt [4])
      ["    def __init__(self, srv, codec_builder: CodecBuilder, *opts):"] (openAt [4])
      (· = methodHead "__init__" parameters ++ [Token.newline]) := Scans.fixed rfl
  have tables := (forms_table entries).cons forms_setRoutes.statements.blank
  have options := forms_makeOptions.cons
    (forms_applyOptions.cons (forms_validateOptions.cons tables.ofBlock.blank).ofBlock).ofBlock
  have body := (forms_makeServer named).cons (forms_setBuilder.cons options.ofBlock.blank).ofBlock
  have inner : StartsAt 8 ("        self.srv = " ++ className ++ "(srv, codec_builder())") :=
    startsAt_frame rfl rfl (ne_lineEnd_of_isName named)
  have whole := Forms.block [4] 8 starts head opens body ⟨_, _, rfl, inner⟩
    (by decide) (by decide)
  simpa only [List.append_assoc, List.cons_append, List.nil_append] using whole

/-- The method that dispatches a request. -/
theorem forms_call : Forms [4]
    ["    def __call__(self, request, response):",
     "        c = self.codec_builder()",
     "",
     "        try:",
     "            route = c.route(request)",
     "        except Exception as e:",
     "            c.write_error(response, e)",
     "            return",
     "",
     "        handler = self.routes.get(route)",
     "        if handler is None:",
     "            c.write_error(response, LookupError(f'no handler for route \x7broute\x7d'))",
     "            return",
     "",
     "        handler(request, response)"] IsStatement := by
  have starts : StartsAt 4 "    def __call__(self, request, response):" := startsAt_of_isLine rfl
  have head : Scans (openAt [4]) ["    def __call__(self, request, response):"] (openAt [4])
      (· = methodHead "__call__" (idents ["self", "request", "response"]) ++ [Token.newline]) :=
    Scans.fixed rfl
  have inner : StartsAt 8 "        c = self.codec_builder()" := startsAt_of_isLine rfl
  have handles := forms_findHandler.cons
    (forms_reportRoute.cons forms_callHandler.statements.blank).ofBlock
  have body := forms_makeCodec.cons (forms_findRoute.cons handles.ofBlock.blank).ofBlock.blank
  exact Forms.block [4] 8 starts head (opens_method "__call__") body ⟨_, _, rfl, inner⟩
    (by decide) (by decide)

/-- The class that dispatches to a service. -/
theorem forms_dispatch {s : ServiceOutline} {table : List String} (named : isName s.name = true)
    (entries : ∀ line ∈ table, Scans inTable [line] inTable AreEntries) :
    Forms [] (s.dispatchLines table) IsStatement := by
  have routerNamed : isName (s.name ++ "Router") = true :=
    isName_append_fixed (c := 'R') named rfl (by decide) (by decide)
  have serverNamed : isName ("_HTTP" ++ s.name ++ "Server") = true :=
    isName_enclosed (c := '_') named rfl rfl isForeign_underscore (by decide)
  have title : "class " ++ s.name ++ "Router:" = "class " ++ (s.name ++ "Router") ++ ":" := by
    simp only [String.append_assoc]
    rfl
  have makes : "        self.srv = _HTTP" ++ s.name ++ "Server(srv, codec_builder())" =
      "        self.srv = " ++ ("_HTTP" ++ s.name ++ "Server") ++ "(srv, codec_builder())" := by
    have front : "        self.srv = _HTTP" = "        self.srv = " ++ "_HTTP" := rfl
    rw [front]
    simp only [String.append_assoc]
    rfl
  have head : Scans (openAt []) ["class " ++ (s.name ++ "Router") ++ ":", ""] (openAt [])
      (· = [.keyword .classKw, ident (s.name ++ "Router"), .symbol .colon] ++ [Token.newline]) :=
    (scans_classLine routerNamed).append_eq (Scans.nil _).blank
  have inner : StartsAt 4 "    def __init__(self, srv, codec_builder: CodecBuilder, *opts):" :=
    startsAt_of_isLine rfl
  have body := (forms_setUp serverNamed entries).cons forms_call.statements.blank
  have whole := Forms.block [] 4 (startsAt_classLine routerNamed) head
    (opens_class (s.name ++ "Router")) body ⟨_, _, rfl, inner⟩ (by decide) (by decide)
  simpa only [ServiceOutline.dispatchLines, title, makes, List.append_assoc, List.cons_append,
    List.nil_append] using whole

end Dispatch

section Imports

variable {bound : String}

/-- A line that imports a module from its package. -/
theorem forms_importMember {first member : String} {others : List String}
    (start : isName first = true) (names : ∀ name ∈ others, isName name = true)
    (memberNamed : isName member = true) (named : isName bound = true) :
    Forms [] ["from " ++ join '.' (first :: others) ++ " import " ++ member ++ " as " ++ bound]
      IsStatement := by
  have before : Reads (openAt []) "from ".toList ⟨.between, [], []⟩ [.keyword .fromKw] := rfl
  have imports : Reads ⟨.between, [], []⟩ [' ', 'i', 'm', 'p', 'o', 'r', 't', ' ']
    ⟨.between, [], []⟩ [.keyword .importKw] := rfl
  have behind := imports.append (reads_name memberNamed (by decide) (reads_boundName named))
  have read := before.append (reads_join start names (by decide) behind)
  have line : "from " ++ join '.' (first :: others) ++ " import " ++ member ++ " as " ++ bound =
      "from " ++ (join '.' (first :: others) ++ " import " ++ member ++ " as ") ++ bound := by
    simp only [String.append_assoc]
  have starts : StartsAt 0
      ("from " ++ (join '.' (first :: others) ++ " import " ++ member ++ " as ") ++ bound) := by
    refine startsAt_importLine "from " rfl rfl ?_ named
    intro c inside
    simp only [String.toList_append, List.mem_append] at inside
    rcases inside with (inside | inside) | inside
    · exact ne_lineEnd_of_mem_join start names c inside
    · have fixed : (" import ".toList.all fun c => c != '\n' && c != '\r') = true := rfl
      exact ne_lineEnd_of_all fixed c inside
    · exact ne_lineEnd_of_isName memberNamed c inside
  rw [line]
  refine Forms.single starts ?_ (isStatement_importMember first others member bound)
  simpa [ident] using read

/-- A line that imports a module that is in no package. -/
theorem forms_importModule {name : String} (moduleNamed : isName name = true)
    (named : isName bound = true) :
    Forms [] ["import " ++ name ++ " as " ++ bound] IsStatement := by
  have before : Reads (openAt []) "import ".toList ⟨.between, [], []⟩ [.keyword .importKw] := rfl
  have read := before.append (reads_name moduleNamed (by decide) (reads_boundName named))
  have starts := startsAt_importLine "import " rfl rfl (ne_lineEnd_of_isName moduleNamed)
    named
  rw [← String.append_assoc] at starts
  refine Forms.single starts ?_ (isStatement_importModule name bound)
  rw [String.append_assoc]
  simpa [ident] using read

/-- The line that imports a module whose path is made of names. -/
theorem forms_importStatement {m : ImportedModule} (path : IsDotted m.path)
    (named : isName m.boundName = true) : Forms [] [m.importStatement] IsStatement := by
  obtain ⟨first, others, dotted, start, names⟩ := path
  have noDot {name : String} (named : isName name = true) : '.' ∉ name.toList :=
    not_mem_of_isName named (by decide)
  rw [ImportedModule.importStatement, dotted]
  rcases List.eq_nil_or_concat' others with rfl | ⟨front, last, rfl⟩
  · rw [join_singleton, cutLast_of_not_mem (noDot start)]
    exact forms_importModule start named
  · have lastNamed : isName last = true := names last (by simp)
    have cut : cutLast '.' (join '.' (first :: (front ++ [last]))).toList =
        some ((join '.' (first :: front)).toList, last.toList) := by
      rw [← cutLast_append_cons _ (noDot lastNamed)]
      rw [toList_join_cons, toList_join_cons, List.flatMap_append, List.append_assoc]
      simp
    obtain ⟨c, parent, letters⟩ : ∃ c parent, (join '.' (first :: front)).toList = c :: parent := by
      obtain ⟨c, rest, letters, -⟩ := exists_start_of_isName start
      exact ⟨c, _, by rw [toList_join_cons, letters]; rfl⟩
    rw [cut, letters]
    simp only [← letters, String.ofList_toList]
    exact forms_importMember start (fun name member => names name (by simp [member])) lastNamed
      named

end Imports
end HttpAdapter
