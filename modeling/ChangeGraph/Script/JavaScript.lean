import ChangeGraph.Script.Lexical

/-! # The grammar of JavaScript

Statements, declarations, expressions, classes, patterns and tags. Strengths are named and ordered at the end. Readings
that the next token cannot tell apart, such as a parenthesised expression and the parameters of an arrow function, are
left open; the parser follows them all. -/

namespace ChangeGraph.Script.JavaScript

open ChangeGraph.Grammar
open ChangeGraph.Grammar.Rule

abbrev Rules := List (String × Rule)

/-- A word used as a name, keywords of the rules included. -/
def nameOrReserved : Rule := oneOf [n "identifier", n "_reserved_identifier"]

def modules : Rules := [
  ("program", seqs [opt (n "hash_bang_line"), many (n "statement")]),
  ("hash_bang_line", .pattern "hash_bang_line"),
  ("export_statement", oneOf [
    seqs [t "export", oneOf [
      seqs [t "*", n "_from_clause"],
      seqs [n "namespace_export", n "_from_clause"],
      seqs [n "export_clause", n "_from_clause"],
      n "export_clause"], n "_semicolon"],
    seqs [many (.field "decorator" (n "decorator")), t "export", oneOf [
      .field "declaration" (n "declaration"),
      seqs [t "default", oneOf [
        .field "declaration" (n "declaration"),
        seqs [.field "value" (n "expression"), n "_semicolon"]]]]]]),
  ("namespace_export", seqs [t "*", t "as", n "_module_export_name"]),
  ("export_clause", seqs [t "\x7b", commaSep (n "export_specifier"), opt (t ","), t "\x7d"]),
  ("export_specifier", seqs [
    .field "name" (n "_module_export_name"),
    opt (seqs [t "as", .field "alias" (n "_module_export_name")])]),
  ("_module_export_name", oneOf [n "identifier", n "string", t "default"]),
  ("declaration", oneOf [
    n "function_declaration", n "generator_function_declaration", n "class_declaration", n "lexical_declaration",
    n "variable_declaration", n "using_declaration"]),
  ("import", t "import"),
  ("import_statement", seqs [
    t "import",
    oneOf [seqs [n "import_clause", n "_from_clause"], .field "source" (n "string")],
    opt (n "import_attribute"), n "_semicolon"]),
  ("import_clause", oneOf [
    n "namespace_import", n "named_imports",
    seqs [n "identifier", opt (seqs [t ",", oneOf [n "namespace_import", n "named_imports"]])]]),
  ("_from_clause", seqs [t "from", .field "source" (n "string")]),
  ("namespace_import", seqs [t "*", t "as", n "identifier"]),
  ("named_imports", seqs [t "\x7b", commaSep (n "import_specifier"), opt (t ","), t "\x7d"]),
  ("import_specifier", oneOf [
    .field "name" (n "identifier"),
    seqs [.field "name" (n "_module_export_name"), t "as", .field "alias" (n "identifier")]]),
  ("import_attribute", seqs [t "with", n "object"])]

def statements : Rules := [
  ("statement", oneOf [
    n "export_statement", n "import_statement", n "debugger_statement", n "expression_statement", n "declaration",
    n "statement_block", n "if_statement", n "switch_statement", n "for_statement", n "for_in_statement",
    n "while_statement", n "do_statement", n "try_statement", n "with_statement", n "break_statement",
    n "continue_statement", n "return_statement", n "throw_statement", n "empty_statement", n "labeled_statement"]),
  ("expression_statement", seqs [n "_expressions", n "_semicolon"]),
  ("variable_declaration", seqs [t "var", commaSep1 (n "variable_declarator"), n "_semicolon"]),
  ("lexical_declaration", seqs [
    .field "kind" (oneOf [t "let", t "const"]), commaSep1 (n "variable_declarator"), n "_semicolon"]),
  ("using_declaration", seqs [
    .field "kind" (oneOf [t "using", seqs [t "await", t "using"]]),
    commaSep1 (n "variable_declarator"), n "_semicolon"]),
  ("variable_declarator", seqs [
    .field "name" (oneOf [n "identifier", n "_destructuring_pattern"]), opt (n "_initializer")]),
  ("statement_block", rightward (seqs [t "\x7b", many (n "statement"), t "\x7d", opt (n "_automatic_semicolon")])),
  ("else_clause", seqs [t "else", n "statement"]),
  ("if_statement", rightward (seqs [
    t "if", .field "condition" (n "parenthesized_expression"), .field "consequence" (n "statement"),
    opt (.field "alternative" (n "else_clause"))])),
  ("switch_statement", seqs [
    t "switch", .field "value" (n "parenthesized_expression"), .field "body" (n "switch_body")]),
  ("for_statement", seqs [
    t "for", t "(",
    oneOf [
      .field "initializer" (oneOf [n "lexical_declaration", n "variable_declaration"]),
      seqs [.field "initializer" (n "_expressions"), t ";"],
      .field "initializer" (n "empty_statement")],
    .field "condition" (oneOf [seqs [n "_expressions", t ";"], n "empty_statement"]),
    .field "increment" (opt (n "_expressions")),
    t ")", .field "body" (n "statement")]),
  ("for_in_statement", seqs [t "for", opt (t "await"), n "_for_header", .field "body" (n "statement")]),
  ("_for_header", seqs [
    t "(",
    oneOf [
      .field "left" (oneOf [n "_lhs_expression", n "parenthesized_expression"]),
      seqs [.field "kind" (t "var"), .field "left" (oneOf [n "identifier", n "_destructuring_pattern"]),
        opt (n "_initializer")],
      seqs [.field "kind" (oneOf [t "let", t "const"]),
        .field "left" (oneOf [n "identifier", n "_destructuring_pattern"]), opt (n "_automatic_semicolon")],
      seqs [.field "kind" (oneOf [t "using", seqs [t "await", t "using"]]),
        .field "left" (n "identifier"), opt (n "_automatic_semicolon")]],
    .field "operator" (oneOf [t "in", t "of"]),
    .field "right" (n "_expressions"),
    t ")"]),
  ("while_statement", seqs [
    t "while", .field "condition" (n "parenthesized_expression"), .field "body" (n "statement")]),
  ("do_statement", rightward (seqs [
    t "do", .field "body" (n "statement"), t "while", .field "condition" (n "parenthesized_expression"),
    opt (n "_semicolon")])),
  ("try_statement", seqs [
    t "try", .field "body" (n "statement_block"), opt (.field "handler" (n "catch_clause")),
    opt (.field "finalizer" (n "finally_clause"))]),
  ("with_statement", seqs [
    t "with", .field "object" (n "parenthesized_expression"), .field "body" (n "statement")]),
  ("break_statement", seqs [
    t "break", .field "label" (opt (as "statement_identifier" (n "identifier"))), n "_semicolon"]),
  ("continue_statement", seqs [
    t "continue", .field "label" (opt (as "statement_identifier" (n "identifier"))), n "_semicolon"]),
  ("debugger_statement", seqs [t "debugger", n "_semicolon"]),
  ("return_statement", seqs [t "return", opt (n "_expressions"), n "_semicolon"]),
  ("throw_statement", seqs [t "throw", n "_expressions", n "_semicolon"]),
  ("empty_statement", t ";"),
  ("labeled_statement", .weight (-1) (seqs [
    .field "label" (as "statement_identifier" nameOrReserved), t ":", .field "body" (n "statement")])),
  ("switch_body", seqs [t "\x7b", many (oneOf [n "switch_case", n "switch_default"]), t "\x7d"]),
  ("switch_case", seqs [
    t "case", .field "value" (n "_expressions"), t ":", .field "body" (many (n "statement"))]),
  ("switch_default", seqs [t "default", t ":", .field "body" (many (n "statement"))]),
  ("catch_clause", seqs [
    t "catch",
    opt (seqs [t "(", .field "parameter" (oneOf [n "identifier", n "_destructuring_pattern"]), t ")"]),
    .field "body" (n "statement_block")]),
  ("finally_clause", seqs [t "finally", .field "body" (n "statement_block")]),
  ("parenthesized_expression", seqs [t "(", n "_expressions", t ")"])]

def literals : Rules := [
  ("_expressions", oneOf [n "expression", n "sequence_expression"]),
  ("expression", oneOf [
    n "primary_expression", n "_jsx_element", n "assignment_expression", n "augmented_assignment_expression",
    n "await_expression", n "unary_expression", n "binary_expression", n "ternary_expression",
    n "update_expression", n "new_expression", n "yield_expression"]),
  ("primary_expression", oneOf [
    n "subscript_expression", n "member_expression", n "parenthesized_expression", n "_identifier",
    as "identifier" (n "_reserved_identifier"), n "this", n "super", n "number", n "string", n "template_string",
    n "regex", n "true", n "false", n "null", n "object", n "array", n "function_expression", n "arrow_function",
    n "generator_function", n "class", n "meta_property", n "call_expression"]),
  ("yield_expression", rightward (seqs [
    t "yield", oneOf [seqs [t "*", n "expression"], opt (n "expression")]])),
  ("object", binds "object" (seqs [
    t "\x7b",
    commaSep (opt (oneOf [
      n "pair", n "spread_element", n "method_definition",
      as "shorthand_property_identifier" nameOrReserved])),
    t "\x7d"])),
  ("object_pattern", binds "object" (seqs [
    t "\x7b",
    commaSep (opt (oneOf [
      n "pair_pattern", n "rest_pattern", n "object_assignment_pattern",
      as "shorthand_property_identifier_pattern" nameOrReserved])),
    t "\x7d"])),
  ("assignment_pattern", seqs [.field "left" (n "pattern"), t "=", .field "right" (n "expression")]),
  ("object_assignment_pattern", seqs [
    .field "left" (oneOf [
      as "shorthand_property_identifier_pattern" (oneOf [n "_reserved_identifier", n "identifier"]),
      n "_destructuring_pattern"]),
    t "=", .field "right" (n "expression")]),
  ("array", seqs [t "[", commaSep (opt (oneOf [n "expression", n "spread_element"])), t "]"]),
  ("array_pattern", seqs [t "[", commaSep (opt (oneOf [n "pattern", n "assignment_pattern"])), t "]"])]

def tagText (piece quote : String) : Rule :=
  seqs [t quote, many (oneOf [as "string_fragment" (n piece), n "html_character_reference"]), t quote]

def tags : Rules := [
  ("_jsx_element", oneOf [n "jsx_element", n "jsx_self_closing_element"]),
  ("jsx_element", seqs [
    .field "open_tag" (n "jsx_opening_element"), many (n "_jsx_child"),
    .field "close_tag" (n "jsx_closing_element")]),
  ("html_character_reference", .pattern "html_character_reference"),
  ("jsx_expression", seqs [
    t "\x7b", opt (oneOf [n "expression", n "sequence_expression", n "spread_element"]), t "\x7d"]),
  ("_jsx_child", oneOf [n "jsx_text", n "html_character_reference", n "_jsx_element", n "jsx_expression"]),
  ("jsx_opening_element", .weight (-1) (seqs [
    t "<",
    opt (seqs [.field "name" (n "_jsx_element_name"), many (.field "attribute" (n "_jsx_attribute"))]),
    t ">"])),
  ("jsx_identifier", .pattern "jsx_identifier"),
  ("_jsx_identifier", oneOf [as "identifier" (n "jsx_identifier"), n "identifier"]),
  ("nested_identifier", binds "member" (seqs [
    .field "object" (oneOf [n "identifier", as "member_expression" (n "nested_identifier")]),
    t ".", .field "property" (as "property_identifier" (n "identifier"))])),
  ("jsx_namespace_name", seqs [n "_jsx_identifier", t ":", n "_jsx_identifier"]),
  ("_jsx_element_name", oneOf [
    n "_jsx_identifier", as "member_expression" (n "nested_identifier"), n "jsx_namespace_name"]),
  ("jsx_closing_element", seqs [t "</", opt (.field "name" (n "_jsx_element_name")), t ">"]),
  ("jsx_self_closing_element", seqs [
    t "<", .field "name" (n "_jsx_element_name"), many (.field "attribute" (n "_jsx_attribute")), t "/>"]),
  ("_jsx_attribute", oneOf [n "jsx_attribute", n "jsx_expression"]),
  ("_jsx_attribute_name", oneOf [as "property_identifier" (n "_jsx_identifier"), n "jsx_namespace_name"]),
  ("jsx_attribute", seqs [n "_jsx_attribute_name", opt (seqs [t "=", n "_jsx_attribute_value"])]),
  ("_jsx_string", oneOf [
    tagText "unescaped_double_jsx_string_fragment" "\"", tagText "unescaped_single_jsx_string_fragment" "'"]),
  ("unescaped_double_jsx_string_fragment", .pattern "unescaped_double_jsx_string_fragment"),
  ("unescaped_single_jsx_string_fragment", .pattern "unescaped_single_jsx_string_fragment"),
  ("_jsx_attribute_value", oneOf [as "string" (n "_jsx_string"), n "jsx_expression", n "_jsx_element"])]

def functions : Rules := [
  ("class", binds "literal" (seqs [
    many (.field "decorator" (n "decorator")), t "class", .field "name" (opt (n "identifier")),
    opt (n "class_heritage"), .field "body" (n "class_body")])),
  ("class_declaration", binds "declare" (seqs [
    many (.field "decorator" (n "decorator")), t "class", .field "name" (n "identifier"),
    opt (n "class_heritage"), .field "body" (n "class_body"), opt (n "_automatic_semicolon")])),
  ("class_heritage", seqs [t "extends", n "expression"]),
  ("function_expression", binds "literal" (seqs [
    opt (t "async"), t "function", .field "name" (opt (n "identifier")), n "_call_signature",
    .field "body" (n "statement_block")])),
  ("function_declaration", bindsRight "declare" (seqs [
    opt (t "async"), t "function", .field "name" (n "identifier"), n "_call_signature",
    .field "body" (n "statement_block"), opt (n "_automatic_semicolon")])),
  ("generator_function", binds "literal" (seqs [
    opt (t "async"), t "function", t "*", .field "name" (opt (n "identifier")), n "_call_signature",
    .field "body" (n "statement_block")])),
  ("generator_function_declaration", bindsRight "declare" (seqs [
    opt (t "async"), t "function", t "*", .field "name" (n "identifier"), n "_call_signature",
    .field "body" (n "statement_block"), opt (n "_automatic_semicolon")])),
  ("arrow_function", seqs [
    opt (t "async"),
    oneOf [
      .field "parameter" (oneOf [as "identifier" (n "_reserved_identifier"), n "identifier"]),
      n "_call_signature"],
    t "=>",
    .field "body" (oneOf [n "expression", n "statement_block"])]),
  ("_call_signature", .field "parameters" (n "formal_parameters")),
  ("_formal_parameter", oneOf [n "pattern", n "assignment_pattern"]),
  ("optional_chain", t "?."),
  ("call_expression", oneOf [
    binds "call" (seqs [
      .field "function" (oneOf [n "expression", n "import"]), .field "arguments" (n "arguments")]),
    binds "template_call" (seqs [
      .field "function" (oneOf [n "primary_expression", n "new_expression"]),
      .field "arguments" (n "template_string")]),
    binds "member" (seqs [
      .field "function" (n "primary_expression"), .field "optional_chain" (n "optional_chain"),
      .field "arguments" (n "arguments")])]),
  ("new_expression", bindsRight "new" (seqs [
    t "new", .field "constructor" (oneOf [n "primary_expression", n "new_expression"]),
    .field "arguments" (opt (.weight 1 (n "arguments")))])),
  ("await_expression", binds "unary_void" (seqs [t "await", n "expression"])),
  ("member_expression", binds "member" (seqs [
    .field "object" (oneOf [n "expression", n "primary_expression", n "import"]),
    oneOf [t ".", .field "optional_chain" (n "optional_chain")],
    .field "property" (oneOf [
      n "private_property_identifier", .anyWord (as "property_identifier" (n "identifier"))])])),
  ("subscript_expression", bindsRight "member" (seqs [
    .field "object" (oneOf [n "expression", n "primary_expression"]),
    opt (.field "optional_chain" (n "optional_chain")),
    t "[", .field "index" (n "_expressions"), t "]"]))]

def binary (operator strength : String) (side : Side) (left : Rule) : Rule :=
  .strength (.named strength) (some side) (seqs [
    .field "left" left, .field "operator" (t operator), .field "right" (n "expression")])

def operators : List (String × String) := [
  ("&&", "logical_and"), ("||", "logical_or"), (">>", "binary_shift"), (">>>", "binary_shift"),
  ("<<", "binary_shift"), ("&", "bitwise_and"), ("^", "bitwise_xor"), ("|", "bitwise_or"),
  ("+", "binary_plus"), ("-", "binary_plus"), ("*", "binary_times"), ("/", "binary_times"),
  ("%", "binary_times"), ("**", "binary_exp"), ("<", "binary_relation"), ("<=", "binary_relation"),
  ("==", "binary_equality"), ("===", "binary_equality"), ("!=", "binary_equality"),
  ("!==", "binary_equality"), (">=", "binary_relation"), (">", "binary_relation"), ("??", "ternary"),
  ("instanceof", "binary_relation"), ("in", "binary_relation")]

def expressions : Rules := [
  ("_lhs_expression", oneOf [
    n "member_expression", n "subscript_expression", n "_identifier",
    as "identifier" (n "_reserved_identifier"), n "_destructuring_pattern"]),
  ("assignment_expression", bindsRight "assign" (seqs [
    .field "left" (oneOf [n "parenthesized_expression", n "_lhs_expression"]), t "=",
    .field "right" (n "expression")])),
  ("_augmented_assignment_lhs", oneOf [
    n "member_expression", n "subscript_expression", as "identifier" (n "_reserved_identifier"),
    n "identifier", n "parenthesized_expression"]),
  ("augmented_assignment_expression", bindsRight "assign" (seqs [
    .field "left" (n "_augmented_assignment_lhs"),
    .field "operator" (oneOf (["+=", "-=", "*=", "/=", "%=", "^=", "&=", "|=", ">>=", ">>>=", "<<=", "**=",
      "&&=", "||=", "??="].map t)),
    .field "right" (n "expression")])),
  ("_initializer", seqs [t "=", .field "value" (n "expression")]),
  ("_destructuring_pattern", oneOf [n "object_pattern", n "array_pattern"]),
  ("spread_element", seqs [t "...", n "expression"]),
  ("ternary_expression", bindsRight "ternary" (seqs [
    .field "condition" (n "expression"), asText "?" (n "_ternary_qmark"),
    .field "consequence" (n "expression"), t ":", .field "alternative" (n "expression")])),
  ("binary_expression", oneOf (operators.map fun (op, level) =>
    binary op level (if op == "**" then .right else .left)
      (if op == "in" then oneOf [n "expression", n "private_property_identifier"] else n "expression"))),
  ("unary_expression", bindsLeft "unary_void" (seqs [
    .field "operator" (oneOf (["!", "~", "-", "+", "typeof", "void", "delete"].map t)),
    .field "argument" (n "expression")])),
  ("update_expression", leftward (oneOf [
    seqs [.field "argument" (n "expression"), .field "operator" (oneOf [t "++", t "--"])],
    seqs [.field "operator" (oneOf [t "++", t "--"]), .field "argument" (n "expression")]])),
  ("sequence_expression", rightward (commaSep1 (n "expression")))]

def stringText (piece quote : String) : Rule :=
  seqs [t quote, many (oneOf [as "string_fragment" (n piece), n "escape_sequence"]), t quote]

def tokens : Rules := [
  ("string", oneOf [
    stringText "unescaped_double_string_fragment" "\"", stringText "unescaped_single_string_fragment" "'"]),
  ("unescaped_double_string_fragment", .pattern "unescaped_double_string_fragment"),
  ("unescaped_single_string_fragment", .pattern "unescaped_single_string_fragment"),
  ("escape_sequence", .pattern "escape_sequence"),
  ("comment", .pattern "comment"),
  ("template_string", seqs [
    t "`",
    many (oneOf [as "string_fragment" (n "_template_chars"), n "escape_sequence", n "template_substitution"]),
    t "`"]),
  ("template_substitution", seqs [t "$\x7b", n "_expressions", t "\x7d"]),
  ("regex", seqs [
    t "/", .field "pattern" (n "regex_pattern"), .pattern "regex_end", opt (.field "flags" (n "regex_flags"))]),
  ("regex_pattern", .pattern "regex_pattern"),
  ("regex_flags", .pattern "regex_flags"),
  ("number", .pattern "number"),
  ("_identifier", oneOf [n "undefined", n "identifier"]),
  ("identifier", .pattern "identifier"),
  ("private_property_identifier", .pattern "private_property_identifier"),
  ("meta_property", oneOf [seqs [t "new", t ".", t "target"], seqs [t "import", t ".", t "meta"]]),
  ("this", t "this"),
  ("super", t "super"),
  ("true", t "true"),
  ("false", t "false"),
  ("null", t "null"),
  ("undefined", t "undefined")]

def members : Rules := [
  ("arguments", seqs [t "(", commaSep (opt (oneOf [n "expression", n "spread_element"])), t ")"]),
  ("decorator", seqs [t "@", oneOf [
    n "identifier", as "member_expression" (n "decorator_member_expression"),
    as "call_expression" (n "decorator_call_expression")]]),
  ("decorator_member_expression", binds "member" (seqs [
    .field "object" (oneOf [n "identifier", as "member_expression" (n "decorator_member_expression")]),
    t ".", .field "property" (as "property_identifier" (n "identifier"))])),
  ("decorator_call_expression", binds "call" (seqs [
    .field "function" (oneOf [n "identifier", as "member_expression" (n "decorator_member_expression")]),
    .field "arguments" (n "arguments")])),
  ("class_body", seqs [
    t "\x7b",
    many (oneOf [
      seqs [.field "member" (n "method_definition"), opt (t ";")],
      seqs [.field "member" (n "field_definition"), n "_semicolon"],
      .field "member" (n "class_static_block"),
      t ";"]),
    t "\x7d"]),
  ("field_definition", seqs [
    many (.field "decorator" (n "decorator")), opt (t "static"), .field "property" (n "_property_name"),
    opt (n "_initializer")]),
  ("formal_parameters", seqs [
    t "(", opt (seqs [commaSep1 (n "_formal_parameter"), opt (t ",")]), t ")"]),
  ("class_static_block", seqs [t "static", .field "body" (n "statement_block")]),
  ("pattern", .weight (-1) (oneOf [n "_lhs_expression", n "rest_pattern"])),
  ("rest_pattern", rightward (seqs [t "...", n "_lhs_expression"])),
  ("method_definition", seqs [
    many (.field "decorator" (n "decorator")),
    opt (oneOf [t "static", asText "static get" (.pattern "static_get")]),
    opt (t "async"), opt (oneOf [t "get", t "set", t "*"]),
    .field "name" (n "_property_name"), .field "parameters" (n "formal_parameters"),
    .field "body" (n "statement_block")]),
  ("pair", seqs [.field "key" (n "_property_name"), t ":", .field "value" (n "expression")]),
  ("pair_pattern", seqs [
    .field "key" (n "_property_name"), t ":",
    .field "value" (oneOf [n "pattern", n "assignment_pattern"])]),
  ("_property_name", .anyWord (oneOf [
    as "property_identifier" nameOrReserved, n "private_property_identifier", n "string", n "number",
    n "computed_property_name"])),
  ("computed_property_name", seqs [t "[", n "expression", t "]"]),
  ("_reserved_identifier", oneOf [t "get", t "set", t "async", t "static", t "export", t "let"]),
  ("_semicolon", oneOf [n "_automatic_semicolon", t ";"])]

/-- Strengths from the strongest to the weakest, and rankings between single constructs. -/
def orders : List (List Rank) := [
  [.named "member", .named "template_call", .named "call", .rule "update_expression", .named "unary_void",
    .named "binary_exp", .named "binary_times", .named "binary_plus", .named "binary_shift",
    .named "binary_compare", .named "binary_relation", .named "binary_equality", .named "bitwise_and",
    .named "bitwise_xor", .named "bitwise_or", .named "logical_and", .named "logical_or", .named "ternary",
    .rule "sequence_expression", .rule "arrow_function"],
  [.named "assign", .rule "primary_expression"],
  [.named "member", .named "template_call", .named "new", .named "call", .rule "expression"],
  [.named "declare", .named "literal"],
  [.rule "primary_expression", .rule "statement_block", .named "object"],
  [.rule "meta_property", .rule "import"],
  [.rule "import_statement", .rule "import"],
  [.rule "export_statement", .rule "primary_expression"],
  [.rule "lexical_declaration", .rule "primary_expression"]]

def contextual : List String := [
  "_automatic_semicolon", "_template_chars", "_ternary_qmark", "html_comment", "||", "escape_sequence",
  "regex_pattern", "jsx_text"]

def groups : List String := ["statement", "declaration", "expression", "primary_expression", "pattern"]

def inlined : List String := [
  "_call_signature", "_formal_parameter", "_expressions", "_semicolon", "_identifier", "_reserved_identifier",
  "_jsx_attribute", "_jsx_element_name", "_jsx_child", "_jsx_element", "_jsx_attribute_name",
  "_jsx_attribute_value", "_jsx_identifier", "_lhs_expression"]

/-- Words that are no names even where a name would fit and the keyword would not. -/
def reserved : List String := [
  "break", "case", "catch", "class", "const", "continue", "debugger", "default", "delete", "do", "else", "export",
  "extends", "finally", "for", "function", "if", "import", "in", "instanceof", "new", "null", "return", "super",
  "switch", "this", "throw", "true", "false", "try", "typeof", "var", "void", "while", "with"]

def rules : Rules :=
  modules ++ statements ++ literals ++ tags ++ functions ++ expressions ++ tokens ++ members

def grammar : Ruleset :=
  { rules, patterns, word := "identifier", contextual, extras := ["comment", "html_comment"], groups, inlined, orders,
    reserved }

end ChangeGraph.Script.JavaScript
