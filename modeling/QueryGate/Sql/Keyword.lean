/-!
# Keywords

Words that mean something to the grammar, in capital letters. An unquoted word
that is none of them is a plain name.
-/

namespace QueryGate.Sql

def keywords : List String :=
  ["ABORT", "ABSOLUTE", "ACCOUNT", "ACTION", "ADD", "ADMIN", "AFTER", "AGAINST", "ALGORITHM",
   "ALIAS", "ALL", "ALLOCATE", "ALTER", "ALWAYS", "ANALYZE", "AND", "ANTI", "ANY", "APPLICATION",
   "APPLY", "ARCHIVE", "ARE", "ARRAY", "AS", "ASC", "ASENSITIVE", "ASOF", "ASSERT", "ASYMMETRIC",
   "AT", "ATOMIC", "ATTACH", "AUDIT", "AUTHENTICATION", "AUTHORIZATION", "AUTO", "AUTOINCREMENT",
   "AUTO_INCREMENT", "AVG", "AVG_ROW_LENGTH", "BACKWARD", "BEFORE", "BEGIN", "BERNOULLI",
   "BETWEEN", "BIGINT", "BINARY", "BIND", "BINDING", "BIT", "BLOB", "BLOCK", "BOOL", "BOOLEAN",
   "BOTH", "BROWSE", "BTREE", "BUCKET", "BUCKETS", "BY", "BYTEA", "BYTES", "CACHE", "CALL",
   "CALLED", "CARDINALITY", "CASCADE", "CASCADED", "CASE", "CAST", "CATALOG", "CATCH", "CEIL",
   "CEILING", "CENTURY", "CHAIN", "CHANGE", "CHANNEL", "CHAR", "CHARACTER", "CHARACTERISTICS",
   "CHARACTERS", "CHARACTER_LENGTH", "CHARSET", "CHAR_LENGTH", "CHECK", "CHECKSUM", "CLEAR",
   "CLOB", "CLONE", "CLOSE", "CLUSTER", "CLUSTERED", "CLUSTERING", "COALESCE", "COLLATE",
   "COLLATION", "COLLECT", "COLUMN", "COLUMNS", "COMMENT", "COMMIT", "COMMITTED", "COMPRESSION",
   "COMPUTE", "CONCURRENTLY", "CONDITION", "CONFLICT", "CONNECT", "CONNECTION", "CONNECTOR",
   "CONSTRAINT", "CONTAINS", "CONTINUE", "CONVERT", "COPY", "CORR", "CORRESPONDING", "COUNT",
   "CREATE", "CREDENTIALS", "CROSS", "CSV", "CUBE", "CUME_DIST", "CURRENT", "CURRENT_CATALOG",
   "CURRENT_DATE", "CURRENT_PATH", "CURRENT_ROLE", "CURRENT_ROW", "CURRENT_SCHEMA",
   "CURRENT_TIME", "CURRENT_TIMESTAMP", "CURRENT_USER", "CURSOR", "CYCLE", "DATA", "DATABASE",
   "DATABASES", "DATE", "DATETIME", "DAY", "DAYOFWEEK", "DAYOFYEAR", "DAYS", "DEALLOCATE", "DEC",
   "DECADE", "DECIMAL", "DECLARE", "DEFAULT", "DEFERRABLE", "DEFERRED", "DEFINE", "DEFINED",
   "DEFINER", "DELAYED", "DELAY_KEY_WRITE", "DELETE", "DELIMITED", "DELIMITER", "DENSE_RANK",
   "DENY", "DEREF", "DESC", "DESCRIBE", "DETACH", "DETAIL", "DETERMINISTIC", "DIRECTORY",
   "DISABLE", "DISCARD", "DISCONNECT", "DISTINCT", "DISTRIBUTE", "DIV", "DO", "DOMAIN", "DOUBLE",
   "DOW", "DOY", "DROP", "DUPLICATE", "DYNAMIC", "EACH", "ELEMENT", "ELEMENTS", "ELSE", "EMPTY",
   "ENABLE", "ENCODING", "ENCRYPTION", "END", "ENFORCED", "ENGINE", "ENUM", "EPOCH", "EQUALS",
   "ERROR", "ESCAPE", "ESCAPED", "ESTIMATE", "EVENT", "EVERY", "EXCEPT", "EXCEPTION", "EXCHANGE",
   "EXCLUDE", "EXCLUSIVE", "EXEC", "EXECUTE", "EXECUTION", "EXISTS", "EXP", "EXPANSION",
   "EXPLAIN", "EXPLICIT", "EXPORT", "EXTENDED", "EXTENSION", "EXTERNAL", "EXTRACT", "FAIL",
   "FALSE", "FAMILY", "FETCH", "FIELDS", "FILE", "FILES", "FILL", "FILTER", "FINAL", "FIRST",
   "FIRST_VALUE", "FLATTEN", "FLOAT", "FLOOR", "FLUSH", "FN", "FOLLOWING", "FOR", "FORCE",
   "FOREIGN", "FORMAT", "FORMATTED", "FORWARD", "FREE", "FREEZE", "FROM", "FULL", "FULLTEXT",
   "FUNCTION", "FUNCTIONS", "FUTURE", "GENERAL", "GENERATE", "GENERATED", "GEOGRAPHY", "GET",
   "GLOBAL", "GRANT", "GRANTED", "GRANTS", "GRAPHVIZ", "GROUP", "GROUPING", "GROUPS", "HASH",
   "HAVING", "HEADER", "HIGH_PRIORITY", "HISTORY", "HOLD", "HOSTS", "HOUR", "HOURS", "ID",
   "IDENTITY", "IF", "IGNORE", "ILIKE", "IMMEDIATE", "IMMUTABLE", "IMPORT", "IN", "INCLUDE",
   "INCREMENT", "INDEX", "INDICATOR", "INHERIT", "INITIALLY", "INNER", "INOUT", "INPLACE",
   "INPUT", "INSENSITIVE", "INSERT", "INSTALL", "INSTANT", "INSTEAD", "INT", "INTEGER",
   "INTERSECT", "INTERVAL", "INTO", "INVISIBLE", "INVOKER", "IS", "ISOLATION", "ITEMS", "JOIN",
   "JSON", "JSONB", "JSON_TABLE", "JULIAN", "KEY", "KEYS", "KEY_BLOCK_SIZE", "KILL", "LAG",
   "LANGUAGE", "LARGE", "LAST", "LAST_VALUE", "LATERAL", "LEAD", "LEADING", "LEFT", "LEVEL",
   "LIKE", "LIMIT", "LINE", "LINES", "LIST", "LISTEN", "LN", "LOAD", "LOCAL", "LOCALTIME",
   "LOCALTIMESTAMP", "LOCATION", "LOCK", "LOCKED", "LOG", "LOGIN", "LOGS", "LONG", "LONGBLOB",
   "LONGTEXT", "LOWER", "LOW_PRIORITY", "MACRO", "MANAGE", "MAP", "MASKING", "MATCH", "MATCHED",
   "MATCHES", "MATERIALIZED", "MAX", "MAXVALUE", "MAX_ROWS", "MEDIUMBLOB", "MEDIUMINT",
   "MEDIUMTEXT", "MEMBER", "MERGE", "MESSAGE", "METADATA", "METHOD", "MICROSECOND",
   "MILLISECOND", "MIN", "MINUS", "MINUTE", "MINUTES", "MINVALUE", "MIN_ROWS", "MOD", "MODE",
   "MODIFY", "MODULE", "MONITOR", "MONTH", "MONTHS", "NAME", "NAMES", "NATIONAL", "NATURAL",
   "NCHAR", "NEST", "NESTED", "NETWORK", "NEW", "NEXT", "NO", "NONE", "NORMALIZE", "NORMALIZED",
   "NOT", "NOTHING", "NOTIFY", "NOWAIT", "NO_WRITE_TO_BINLOG", "NTH_VALUE", "NTILE", "NULL",
   "NULLABLE", "NULLIF", "NULLS", "NUMERIC", "NVARCHAR", "OBJECT", "OBJECTS", "OCTETS",
   "OCTET_LENGTH", "OF", "OFF", "OFFSET", "OLD", "ON", "ONE", "ONLY", "OPEN", "OPERATE",
   "OPERATOR", "OPTIMIZE", "OPTIMIZER_COSTS", "OPTION", "OPTIONS", "OR", "ORDER", "ORDINALITY",
   "OTHERS", "OUT", "OUTER", "OUTPUT", "OVER", "OVERFLOW", "OVERLAPS", "OVERLAY", "OVERWRITE",
   "OWNED", "OWNER", "OWNERSHIP", "PACK_KEYS", "PARALLEL", "PARAMETER", "PART", "PARTIAL",
   "PARTITION", "PARTITIONED", "PARTITIONS", "PASSWORD", "PAST", "PATH", "PATTERN", "PER",
   "PERCENT", "PERCENT_RANK", "PERIOD", "PERSISTENT", "PIVOT", "PLACING", "PLAN", "PLANS",
   "POINT", "POLICY", "POLYGON", "POOL", "PORTION", "POSITION", "POWER", "PRAGMA", "PRECEDES",
   "PRECEDING", "PRECISION", "PREPARE", "PRESERVE", "PRIMARY", "PRINT", "PRIOR", "PRIVILEGES",
   "PROCEDURE", "PROFILE", "PROGRAM", "PROJECTION", "PUBLIC", "PURGE", "QUALIFY", "QUARTER",
   "QUERY", "QUOTE", "RAISE", "RANGE", "RANK", "RAW", "READ", "READS", "READ_ONLY", "REAL",
   "RECURSIVE", "REF", "REFERENCES", "REFERENCING", "REGEXP", "RELATIVE", "RELAY", "RELEASE",
   "REMOTE", "RENAME", "REPAIR", "REPEATABLE", "REPLACE", "REPLICA", "REPLICATION", "RESET",
   "RESPECT", "RESTART", "RESTRICT", "RESULT", "RESUME", "RETURN", "RETURNING", "RETURNS",
   "REVOKE", "RIGHT", "RLIKE", "ROLE", "ROLES", "ROLLBACK", "ROLLUP", "ROOT", "ROW", "ROWID",
   "ROWS", "ROW_FORMAT", "ROW_NUMBER", "RULE", "RUN", "SAFE", "SAMPLE", "SAVEPOINT", "SCHEMA",
   "SCHEMAS", "SCOPE", "SCROLL", "SEARCH", "SECOND", "SECONDARY", "SECONDS", "SECRET",
   "SECURITY", "SEED", "SELECT", "SEMI", "SENSITIVE", "SEPARATOR", "SEQUENCE", "SEQUENCES",
   "SERIALIZABLE", "SERVER", "SERVICE", "SESSION", "SESSION_USER", "SET", "SETS", "SETTINGS",
   "SHARE", "SHARED", "SHOW", "SIGNED", "SIMILAR", "SIMPLE", "SIZE", "SKIP", "SLOW", "SMALLINT",
   "SNAPSHOT", "SOME", "SORT", "SOURCE", "SPATIAL", "SPECIFIC", "SQL", "SQLEXCEPTION",
   "SQLSTATE", "SQLWARNING", "SQRT", "SRID", "STABLE", "STAGE", "START", "STARTS", "STATEMENT",
   "STATIC", "STATISTICS", "STATS_PERSISTENT", "STATUS", "STDIN", "STDOUT", "STEP", "STORAGE",
   "STORED", "STRAIGHT_JOIN", "STREAM", "STRICT", "STRING", "STRUCT", "SUBSTR", "SUBSTRING",
   "SUM", "SUPER", "SUPERUSER", "SUPPORT", "SUSPEND", "SWAP", "SYMMETRIC", "SYNC", "SYSTEM",
   "SYSTEM_USER", "TABLE", "TABLES", "TABLESAMPLE", "TABLESPACE", "TAG", "TARGET", "TASK",
   "TEMP", "TEMPORARY", "TEMPTABLE", "TERMINATED", "TERSE", "TEXT", "THEN", "TIES", "TIME",
   "TIMESTAMP", "TIMEZONE", "TINYBLOB", "TINYINT", "TINYTEXT", "TO", "TOP", "TOTALS", "TRAILING",
   "TRAN", "TRANSACTION", "TREAT", "TREE", "TRIGGER", "TRIM", "TRUE", "TRUNCATE", "TRY", "TYPE",
   "UNBOUNDED", "UNCOMMITTED", "UNDEFINED", "UNION", "UNIQUE", "UNKNOWN", "UNLOCK", "UNLOGGED",
   "UNNEST", "UNPIVOT", "UNSET", "UNSIGNED", "UNTIL", "UPDATE", "UPPER", "URL", "USAGE", "USE",
   "USER", "USER_RESOURCES", "USING", "UUID", "VACUUM", "VALID", "VALIDATE", "VALUE", "VALUES",
   "VARBINARY", "VARCHAR", "VARIABLE", "VARIABLES", "VARYING", "VERBOSE", "VERSION", "VERSIONS",
   "VIEW", "VIEWS", "VIRTUAL", "VOLATILE", "VOLUME", "WAIT", "WAREHOUSE", "WEEK", "WEEKS",
   "WHEN", "WHENEVER", "WHERE", "WHILE", "WINDOW", "WITH", "WITHIN", "WITHOUT", "WORK",
   "WRAPPER", "WRITE", "XML", "XOR", "YEAR", "YEARS", "YES", "ZONE"]

end QueryGate.Sql
