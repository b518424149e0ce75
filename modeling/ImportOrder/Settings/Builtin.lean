import ImportOrder.Document.Basic

/-! The table of settings that comes with the program. -/

namespace ImportOrder.Settings

/-- A section of settings. -/
def table (entries : List (String × Document)) : Document :=
  .mapping (entries.map fun (name, value) => (.text name, value))

/-- A section of texts. -/
def texts (entries : List (String × String)) : Document :=
  table (entries.map fun (name, value) => (name, .text value))

/-- A list of texts. -/
def names (items : List String) : Document := .list (items.map .text)

/-- The options of a sort that names none. -/
def optionDefaults : Document :=
  table
    [("import_comment_mode", .text "prev-line"),
     ("import_location", .text "auto"),
     ("groups", .list
       [names ["global", "persist"], names ["local", "persist"], names ["relative", "persist"],
        names ["static", "persist"], names ["rest", "persist"]]),
     ("split_relative_groups", .bool true),
     ("relative_sort_alg", .text "deepest-first"),
     ("split_local_pattern", .text ""),
     ("end_of_line", .text "auto"),
     ("resolver", texts
       [("type", "package"), ("config_name", "tsconfig.json")]),
     ("logging", table
       [("enabled", .bool false),
        ("directory", .text "")])]

/-- The keys of the options in an options file. -/
def optionKeys : Document :=
  texts
    [("import_comment_mode", "importCommentMode"), ("import_location", "importLocation"),
     ("groups", "groups"), ("split_relative_groups", "splitRelativeGroups"),
     ("relative_sort_alg", "relativeSortAlg"), ("split_local_pattern", "splitLocalPattern"),
     ("end_of_line", "endOfLine"), ("resolver", "resolver"), ("resolver_type", "type"),
     ("resolver_config_name", "configName"), ("logging", "logging"),
     ("logging_enabled", "enabled"), ("logging_directory", "directory")]

/-- The comment modes. -/
def commentModes : Document :=
  texts
    [("none", "none"), ("same_line", "same-line"), ("prev_line", "prev-line")]

/-- The locations. -/
def locations : Document :=
  texts
    [("leading", "leading"), ("auto", "auto")]

/-- The buckets. -/
def buckets : Document :=
  texts
    [("global", "global"), ("local", "local"), ("relative", "relative"), ("static", "static"),
     ("rest", "rest")]

/-- The ways to order a bucket. -/
def algorithms : Document :=
  texts
    [("natural", "natural"), ("persist", "persist")]

/-- The orders of depths. -/
def relativeOrders : Document :=
  texts
    [("shallow_first", "shallow-first"), ("deepest_first", "deepest-first")]

/-- The types of resolvers. -/
def resolverTypes : Document :=
  texts
    [("fs", "fs"), ("package", "package")]

/-- What a sort can come to. -/
def statuses : Document :=
  texts
    [("sorted", "sorted"), ("unchanged", "unchanged"), ("skipped", "skipped")]

/-- The formats of a report. -/
def formats : Document :=
  texts
    [("text", "text"), ("json", "json")]

/-- The line ends by name. -/
def lineTerminators : Document :=
  texts
    [("auto", "\n"), ("lf", "\n"), ("cr", "\r"), ("crlf", "\r\n")]

/-- The line breaks of a source, the longest first. -/
def lineBreaks : Document := names ["\r\n", "\n", "\r"]

/-- The blanks that fill a line. -/
def inlineBlanks : Document := .text " \t"

/-- How module paths are written. -/
def paths : Document :=
  table
    [("current_prefix", .text "./"),
     ("parent_prefix", .text "../"),
     ("local_marker", .text "."),
     ("current_depth", .int 1),
     ("parent_step", .int 2),
     ("alias_wildcard", .text "*"),
     ("index_basename", .text "index")]

/-- The extensions that a module name may leave out. -/
def extensions : Document := names ["ts", "tsx", "js", "jsx"]

/-- The extensions of files with markup. -/
def grammars : Document :=
  table
    [("tsx_extensions", names [".tsx", ".js", ".jsx", ".mjs", ".cjs"])]

/-- The names of nodes and roles in a syntax tree. -/
def nodeNames : Document :=
  table
    [("import_statement", .text "import_statement"),
     ("comment_types", names ["comment", "html_comment"]),
     ("source_field", .text "source"),
     ("error_type", .text "ERROR")]

/-- The sections of a manifest that name dependencies. -/
def manifestSections : Document :=
  names ["dependencies", "devDependencies", "peerDependencies"]

/-- The keys of a project file. -/
def projectKeys : Document :=
  texts
    [("compiler_options", "compilerOptions"), ("base_url", "baseUrl"), ("paths", "paths"),
     ("extends", "extends"), ("suffix", ".json")]

/-- Defaults of a single value. -/
def smallDefaults : Document :=
  table
    [("unmatched_bucket", .text "__UNMATCHED"),
     ("line_terminator", .text "\n"),
     ("hash_truncation_length", .int 12),
     ("json_indent", .int 2),
     ("stdin_filename", .text "<stdin>")]

/-- The names of files. -/
def fileNames : Document :=
  texts
    [("package_manifest", "package.json"), ("options", ".importsorter.yaml"),
     ("sort_log", "importsorter.jsonl")]

/-- The exit codes. -/
def exitCodes : Document :=
  table
    [("ok", .int 0),
     ("changed", .int 1),
     ("error", .int 2)]

/-- The messages. -/
def messages : Document :=
  table
    [("parse_error", .text "Cannot parse \x7bfilepath\x7d: \x7berror\x7d"),
     ("syntax_error", .text "syntax error at line \x7bline\x7d, column \x7bcolumn\x7d"),
     ("config_error", .text "Cannot load \x7bpath\x7d: \x7berror\x7d"),
     ("config_not_found", .text "no \x7bname\x7d found above \x7bpath\x7d"),
     ("config_not_mapping", .text "expected a mapping, got \x7btype\x7d"),
     ("extends_cycle", .text "circular extends chain through \x7bpath\x7d"),
     ("unknown_resolver", .text "unknown resolver type \x7btype!r\x7d"),
     ("bad_split_pattern", .text "ignoring splitLocalPattern \x7bpattern!r\x7d: \x7berror\x7d"),
     ("option_warning", .text "\x7bsource\x7d: \x7bproblem\x7d"),
     ("read_error", .text "Cannot read \x7bpath\x7d: \x7berror\x7d"),
     ("write_error", .text "Cannot write \x7bpath\x7d: \x7berror\x7d"),
     ("no_input", .text "Pass one or more files, or --stdin"),
     ("invalid", texts
       [("not_mapping", "options must be a mapping, got \x7btype\x7d"),
        ("unknown_key", "unknown option \x7bkey!r\x7d"),
        ("not_choice", "\x7bkey\x7d must be one of \x7bchoices\x7d, got \x7bvalue!r\x7d"),
        ("not_bool", "\x7bkey\x7d must be true or false, got \x7bvalue!r\x7d"),
        ("not_string", "\x7bkey\x7d must be a string, got \x7bvalue!r\x7d"),
        ("not_list", "\x7bkey\x7d must be a list, got \x7bvalue!r\x7d"),
        ("bad_group", "groups[\x7bindex\x7d] must be [bucket, algorithm], got \x7bvalue!r\x7d"),
        ("unknown_bucket", "groups[\x7bindex\x7d] has unknown bucket \x7bvalue!r\x7d; its imports fall through to rest"),
        ("unknown_algorithm", "groups[\x7bindex\x7d] has unknown algorithm \x7bvalue!r\x7d; its imports keep their order"),
        ("duplicate_bucket", "groups[\x7bindex\x7d] repeats bucket \x7bvalue!r\x7d; only the first entry is used"),
        ("bad_pattern", "\x7bkey\x7d is not a valid regular expression: \x7berror\x7d"),
        ("not_mapping_key", "\x7bkey\x7d must be a mapping, got \x7bvalue!r\x7d")])]

/-- The labels of status lines and of the summary. -/
def labels : Document :=
  texts
    [("sorted", "sorted"), ("unchanged", "unchanged"), ("skipped", "skipped"),
     ("would_sort", "would sort"), ("error", "error"),
     ("summary", "\x7bchanged\x7d changed, \x7bunchanged\x7d unchanged, \x7bskipped\x7d skipped, \x7berrors\x7d failed")]

/-- How times, hashes and lines are written. -/
def formatting : Document :=
  table
    [("utc_offset_source", .text "+00:00"),
     ("utc_offset_replacement", .text "Z"),
     ("hash_prefix", .text "sha256:"),
     ("json_separators", names [",", ":"]),
     ("status_line_template", .text "\x7blabel:<10\x7d \x7bfilepath\x7d"),
     ("reason_template", .text "  (\x7breason\x7d)")]

/-- The name of the command and what it does. -/
def commandNames : Document :=
  texts
    [("prog_name", "importsorter"),
     ("description", "Sort and group import statements in TypeScript and JavaScript files")]

/-- The colours and the roles that they show. -/
def theme : Document :=
  table
    [("ansi", texts
       [("red", "\x1b[31m"), ("green", "\x1b[32m"), ("yellow", "\x1b[33m"), ("cyan", "\x1b[36m"),
        ("bold", "\x1b[1m"), ("dim", "\x1b[2m"), ("reset", "\x1b[0m")]),
     ("roles", texts
       [("sorted", "green"), ("would_sort", "yellow"), ("unchanged", "dim"),
        ("skipped", "yellow"), ("error", "red"), ("summary", "bold")])]

/-- The settings that come with the program. -/
def builtin : Entries :=
  [(.text "options", optionDefaults), (.text "option_keys", optionKeys),
   (.text "comment_modes", commentModes), (.text "locations", locations),
   (.text "buckets", buckets), (.text "algorithms", algorithms),
   (.text "relative_sort", relativeOrders), (.text "resolver_types", resolverTypes),
   (.text "statuses", statuses), (.text "formats", formats),
   (.text "line_terminators", lineTerminators), (.text "line_breaks", lineBreaks),
   (.text "inline_whitespace", inlineBlanks), (.text "paths", paths),
   (.text "extensions", extensions), (.text "grammars", grammars),
   (.text "tree_sitter", nodeNames), (.text "manifest_sections", manifestSections),
   (.text "tsconfig", projectKeys), (.text "defaults", smallDefaults),
   (.text "filenames", fileNames), (.text "exit_codes", exitCodes), (.text "messages", messages),
   (.text "labels", labels), (.text "formatting", formatting), (.text "cli", commandNames),
   (.text "theme", theme)]

end ImportOrder.Settings
