namespace SqlBuilder.Identifier

def reservedWords : Char → List String
  | 'a' =>
    ["abort", "abs", "absent", "absolute", "access", "account", "action", "add", "admin", "after", "against",
      "aggregation", "alias", "all", "allocate", "alter", "always", "analyze", "and", "anti", "any", "application",
      "apply", "archive", "are", "array", "array_max_cardinality", "as", "asc", "asensitive", "asof", "assert",
      "asymmetric", "at", "atomic", "attach", "authorization", "auto", "autoincrement", "auto_increment", "avg",
      "avro"]
  | 'b' =>
    ["backward", "base64", "before", "begin", "begin_frame", "begin_partition", "between", "bigdecimal", "bigint",
      "bignumeric", "binary", "binding", "bit", "blob", "bloomfilter", "bool", "boolean", "both", "browse", "btree",
      "buckets", "by", "bypassrls", "bytea", "bytes"]
  | 'c' =>
    ["cache", "call", "called", "cardinality", "cascade", "cascaded", "case", "cast", "catalog", "ceil", "ceiling",
      "century", "chain", "change", "change_tracking", "channel", "char", "character", "characters",
      "character_length", "charset", "char_length", "check", "clear", "clob", "clone", "close", "cluster",
      "clustered", "clustering", "coalesce", "collate", "collation", "collect", "collection", "column", "columns",
      "columnstore", "comment", "commit", "committed", "compression", "compute", "concurrently", "condition",
      "conflict", "connect", "connection", "constraint", "contains", "continue", "convert", "copy", "copy_options",
      "corr", "corresponding", "count", "covar_pop", "covar_samp", "create", "createdb", "createrole", "credentials",
      "cross", "csv", "cube", "cume_dist", "current", "current_catalog", "current_date",
      "current_default_transform_group", "current_path", "current_role", "current_row", "current_schema",
      "current_time", "current_timestamp", "current_transform_group_for_type", "current_user", "cursor", "cycle"]
  | 'd' =>
    ["data", "database", "databases", "data_retention_time_in_days", "date", "date32", "datetime", "datetime64",
      "day", "dayofweek", "dayofyear", "deallocate", "dec", "decade", "decimal", "declare", "deduplicate", "default",
      "default_ddl_collation", "deferrable", "deferred", "define", "defined", "delayed", "delete", "delimited",
      "delimiter", "delta", "dense_rank", "deref", "desc", "describe", "detach", "detail", "deterministic",
      "directory", "disable", "discard", "disconnect", "distinct", "distribute", "div", "do", "double", "dow", "doy",
      "drop", "dry", "duplicate", "dynamic"]
  | 'e' =>
    ["each", "element", "elements", "else", "empty", "enable", "enable_schema_evolution", "encoding", "encryption",
      "end", "end-exec", "endpoint", "end_frame", "end_partition", "enforced", "engine", "enum", "enum16", "enum8",
      "ephemeral", "epoch", "equals", "error", "escape", "escaped", "event", "every", "except", "exception",
      "exclude", "exclusive", "exec", "execute", "exists", "exp", "expansion", "explain", "explicit", "export",
      "extended", "extension", "external", "extract"]
  | 'f' =>
    ["fail", "false", "fetch", "fields", "file", "files", "file_format", "fill", "filter", "final", "first",
      "first_value", "fixedstring", "float", "float32", "float4", "float64", "float8", "floor", "flush", "fn",
      "following", "for", "force", "force_not_null", "force_null", "force_quote", "foreign", "format", "formatted",
      "forward", "frame_row", "free", "freeze", "from", "fsck", "full", "fulltext", "function", "functions", "fusion"]
  | 'g' =>
    ["general", "generate", "generated", "geography", "get", "global", "grant", "granted", "grants", "graphviz",
      "group", "grouping", "groups"]
  | 'h' =>
    ["hash", "having", "header", "heap", "high_priority", "history", "hivevar", "hold", "hosts", "hour", "hours"]
  | 'i' =>
    ["id", "identity", "if", "ignore", "ilike", "immediate", "immutable", "in", "include", "include_null_values",
      "increment", "index", "indicator", "inherit", "initially", "inner", "inout", "inpath", "input", "inputformat",
      "insensitive", "insert", "install", "instead", "int", "int128", "int16", "int2", "int256", "int32", "int4",
      "int64", "int8", "integer", "interpolate", "intersect", "intersection", "interval", "into", "is", "isodow",
      "isolation", "isoweek", "isoyear", "items"]
  | 'j' => ["jar", "join", "json", "jsonb", "jsonfile", "json_table", "julian"]
  | 'k' => ["key", "keys", "kill"]
  | 'l' =>
    ["lag", "language", "large", "last", "last_value", "lateral", "lead", "leading", "left", "level", "like",
      "like_regex", "limit", "lines", "listen", "ln", "load", "local", "localtime", "localtimestamp", "location",
      "lock", "locked", "login", "logs", "longblob", "longtext", "lowcardinality", "lower", "low_priority"]
  | 'm' =>
    ["macro", "managedlocation", "map", "masking", "match", "matched", "matches", "match_condition",
      "match_recognize", "materialize", "materialized", "max", "maxvalue", "max_data_extension_time_in_days",
      "measures", "mediumblob", "mediumint", "mediumtext", "member", "merge", "metadata", "method", "microsecond",
      "microseconds", "millenium", "millennium", "millisecond", "milliseconds", "min", "minute", "minvalue", "mod",
      "mode", "modifies", "modify", "module", "month", "msck", "multiset", "mutation"]
  | 'n' =>
    ["name", "nanosecond", "nanoseconds", "national", "natural", "nchar", "nclob", "nested", "new", "next", "no",
      "nobypassrls", "nocreatedb", "nocreaterole", "noinherit", "nologin", "none", "noorder", "noreplication",
      "normalize", "noscan", "nosuperuser", "not", "nothing", "notify", "nowait", "no_write_to_binlog", "nth_value",
      "ntile", "null", "nullable", "nullif", "nulls", "numeric", "nvarchar"]
  | 'o' =>
    ["object", "occurrences_regex", "octets", "octet_length", "of", "offset", "old", "omit", "on", "one", "only",
      "open", "openjson", "operator", "optimize", "optimizer_costs", "option", "options", "or", "orc", "order",
      "ordinality", "out", "outer", "outputformat", "over", "overflow", "overlaps", "overlay", "overwrite", "owned",
      "owner"]
  | 'p' =>
    ["parallel", "parameter", "parquet", "part", "partition", "partitioned", "partitions", "password", "past", "path",
      "pattern", "per", "percent", "percentile_cont", "percentile_disc", "percent_rank", "period", "permissive",
      "persistent", "pivot", "placing", "plan", "plans", "policy", "portion", "position", "position_regex", "power",
      "pragma", "precedes", "preceding", "precision", "prepare", "preserve", "prewhere", "primary", "prior",
      "privileges", "procedure", "program", "projection", "purge"]
  | 'q' => ["qualify", "quarter", "query", "quote"]
  | 'r' =>
    ["range", "rank", "raw", "rcfile", "read", "reads", "read_only", "real", "recluster", "recursive", "ref",
      "references", "referencing", "regclass", "regexp", "regr_avgx", "regr_avgy", "regr_count", "regr_intercept",
      "regr_r2", "regr_slope", "regr_sxx", "regr_sxy", "regr_syy", "relative", "relay", "release", "remote", "rename",
      "reorg", "repair", "repeatable", "replace", "replica", "replication", "reset", "respect", "restart", "restrict",
      "restricted", "restrictive", "result", "resultset", "resume", "retain", "return", "returning", "returns",
      "revoke", "right", "rlike", "role", "roles", "rollback", "rollup", "root", "row", "rowid", "rows", "row_number",
      "rule", "run"]
  | 's' =>
    ["safe", "safe_cast", "savepoint", "schema", "schemas", "scope", "scroll", "search", "second", "secondary",
      "secret", "security", "select", "semi", "sensitive", "separator", "sequence", "sequencefile", "sequences",
      "serde", "serdeproperties", "serializable", "session", "session_user", "set", "sets", "settings", "share",
      "show", "similar", "skip", "slow", "smallint", "snapshot", "some", "sort", "sorted", "source", "spatial",
      "specific", "specifictype", "sql", "sqlexception", "sqlstate", "sqlwarning", "sqrt", "stable", "stage", "start",
      "starts", "statement", "static", "statistics", "status", "stddev_pop", "stddev_samp", "stdin", "stdout", "step",
      "storage_integration", "stored", "strict", "string", "struct", "submultiset", "substring", "substring_regex",
      "succeeds", "sum", "super", "superuser", "suspend", "swap", "symmetric", "sync", "system", "system_time",
      "system_user"]
  | 't' =>
    ["table", "tables", "tablesample", "tag", "target", "tblproperties", "temp", "temporary", "terminated", "terse",
      "text", "textfile", "then", "ties", "time", "timestamp", "timestamptz", "timetz", "timezone", "timezone_abbr",
      "timezone_hour", "timezone_minute", "timezone_region", "tinyblob", "tinyint", "tinytext", "to", "top", "totals",
      "trailing", "transaction", "transient", "translate", "translate_regex", "translation", "treat", "trigger",
      "trim", "trim_array", "true", "truncate", "try_cast", "try_convert", "tuple", "type"]
  | 'u' =>
    ["uescape", "uint128", "uint16", "uint256", "uint32", "uint64", "uint8", "unbounded", "uncache", "uncommitted",
      "unfreeze", "union", "unique", "unknown", "unlisten", "unload", "unlock", "unlogged", "unmatched", "unnest",
      "unpivot", "unsafe", "unsigned", "until", "update", "upper", "url", "usage", "use", "user", "user_resources",
      "using", "uuid"]
  | 'v' =>
    ["vacuum", "valid", "validation_mode", "value", "values", "value_of", "varbinary", "varchar", "variables",
      "varying", "var_pop", "var_samp", "verbose", "version", "versioning", "view", "views", "virtual", "volatile"]
  | 'w' =>
    ["warehouse", "week", "when", "whenever", "where", "width_bucket", "window", "with", "within", "without",
      "without_array_wrapper", "work", "write"]
  | 'x' => ["xml", "xor"]
  | 'y' => ["year"]
  | 'z' => ["zone", "zorder"]
  | _ => []

def isReserved (name : String) : Bool :=
  match name.toList with
  | [] => false
  | c :: _ => (reservedWords c).contains name

end SqlBuilder.Identifier
