import JoinCanvas.Text.Joined

/-!
# Keywords

Words with a meaning of their own somewhere in SQL.  A word is read as a keyword where one is expected; elsewhere it
is a name like any other, except that some words do not begin an alias without `AS`.
-/

namespace JoinCanvas.Statement.Keyword

/-- The words of a list that is written with blanks between them. -/
def words (text : String) : List String :=
  (Text.split ' ' text.toList).map String.ofList

/-- All keywords. -/
def all : List String :=
  words
    ("ABORT ABS ABSOLUTE ACCESS ACTION ADD ADMIN AFTER AGAINST AGGREGATION ALIAS ALL ALLOCATE ALTER " ++
      "ALWAYS ANALYZE AND ANTI ANY APPLICATION APPLY ARCHIVE ARE ARRAY AS ASC ASENSITIVE ASOF ASSERT " ++
      "ASYMMETRIC AT ATOMIC ATTACH AUTHORIZATION AUTO AUTOINCREMENT AUTO_INCREMENT AVG AVRO BACKWARD " ++
      "BASE64 BEFORE BEGIN BERNOULLI BETWEEN BIGDECIMAL BIGINT BIGNUMERIC BINARY BIND BINDING BIT BLOB " ++
      "BLOCK BOOL BOOLEAN BOTH BROWSE BTREE BUCKET BUCKETS BY BYTEA BYTES CACHE CALL CALLED CARDINALITY " ++
      "CASCADE CASCADED CASE CASES CAST CATALOG CATCH CEIL CEILING CENTURY CHAIN CHANGE CHANNEL CHAR " ++
      "CHARACTER CHARACTERS CHARACTER_LENGTH CHARSET CHAR_LENGTH CHECK CLOB CLONE CLOSE CLUSTER " ++
      "CLUSTERED COALESCE COLLATE COLLATION COLLECT COLLECTION COLUMN COLUMNS COMMENT COMMIT COMMITTED " ++
      "COMPRESSION COMPUTE CONCURRENTLY CONDITION CONFLICT CONNECT CONNECTION CONSTRAINT CONTAINS " ++
      "CONTINUE CONVERT COPY CORR CORRESPONDING COUNT COVAR_POP COVAR_SAMP CREATE CREATEDB CREATEROLE " ++
      "CREDENTIALS CROSS CSV CUBE CUME_DIST CURRENT CURRENT_CATALOG CURRENT_DATE CURRENT_ROLE " ++
      "CURRENT_ROW CURRENT_SCHEMA CURRENT_TIME CURRENT_TIMESTAMP CURRENT_USER CURSOR CYCLE DATA " ++
      "DATABASE DATABASES DATE DATE32 DATETIME DATETIME64 DAY DAYOFWEEK DAYOFYEAR DAYS DEALLOCATE DEC " ++
      "DECADE DECIMAL DECLARE DEDUPLICATE DEFAULT DEFERRABLE DEFERRED DEFINE DEFINED DELAYED DELETE " ++
      "DELIMITED DELIMITER DELTA DENSE_RANK DEREF DESC DESCRIBE DETACH DETAIL DETERMINISTIC DIRECTORY " ++
      "DISABLE DISCARD DISCONNECT DISTINCT DISTRIBUTE DIV DO DOUBLE DOW DOY DROP DRY DUPLICATE DYNAMIC " ++
      "EACH ELEMENT ELEMENTS ELSE EMPTY ENABLE ENCODING ENCRYPTION END ENDPOINT ENFORCED ENGINE ENUM " ++
      "ENUM16 ENUM8 EPHEMERAL EPOCH EQUALS ERROR ESCAPE ESCAPED EVENT EVERY EXCEPT EXCEPTION EXCLUDE " ++
      "EXCLUSIVE EXEC EXECUTE EXISTS EXP EXPANSION EXPLAIN EXPLICIT EXPORT EXTENDED EXTENSION EXTERNAL " ++
      "EXTRACT FAIL FAILOVER FALSE FETCH FIELDS FILE FILES FILE_FORMAT FILL FILTER FINAL FIRST " ++
      "FIRST_VALUE FIXEDSTRING FLOAT FLOAT32 FLOAT4 FLOAT64 FLOAT8 FLOOR FLUSH FOLLOWING FOR FORCE " ++
      "FOREIGN FORMAT FORMATTED FORWARD FREE FREEZE FROM FULFILLMENT FULL FULLTEXT FUNCTION FUNCTIONS " ++
      "FUSION GENERAL GENERATE GENERATED GEOGRAPHY GET GLOBAL GRANT GRANTED GRAPHVIZ GROUP GROUPING " ++
      "GROUPS HASH HAVING HEADER HEAP HIGH_PRIORITY HISTORY HOLD HOSTS HOUR HOURS IDENTITY IF IGNORE " ++
      "ILIKE IMMEDIATE IMMUTABLE IMPORT IN INCLUDE INCLUDE_NULL_VALUES INCREMENT INDEX INDICATOR " ++
      "INHERIT INITIALLY INNER INOUT INPATH INPUT INPUTFORMAT INSENSITIVE INSERT INSTALL INSTEAD INT " ++
      "INT128 INT16 INT2 INT256 INT32 INT4 INT64 INT8 INTEGER INTERPOLATE INTERSECT INTERSECTION " ++
      "INTERVAL INTO INVOKER IO IS ISODOW ISOLATION ISOWEEK ISOYEAR ITEMS JAR JOIN JSON JSONB JSONFILE " ++
      "JSON_TABLE JULIAN KEY KEYS KILL LAG LANGUAGE LARGE LAST LAST_VALUE LATERAL LEAD LEADING LEFT " ++
      "LEVEL LIKE LIKE_REGEX LIMIT LINES LISTEN LN LOAD LOCAL LOCALTIME LOCALTIMESTAMP LOCATION LOCK " ++
      "LOCKED LOGIN LOGS LONGBLOB LONGTEXT LOWCARDINALITY LOWER LOW_PRIORITY MACRO MAP MASKING MATCH " ++
      "MATCHED MATCHES MATCH_CONDITION MATCH_RECOGNIZE MATERIALIZED MAX MAXVALUE MEASURES MEDIUMBLOB " ++
      "MEDIUMINT MEDIUMTEXT MEMBER MERGE METADATA METHOD METRIC MICROSECOND MICROSECONDS MILLENIUM " ++
      "MILLENNIUM MILLISECOND MILLISECONDS MIN MINUTE MINVALUE MOD MODE MODIFIES MODIFY MODULE MONTH " ++
      "MSCK MULTISET MUTATION NAME NANOSECOND NANOSECONDS NATIONAL NATURAL NCHAR NCLOB NESTED NEW NEXT " ++
      "NO NONE NORMALIZE NOSCAN NOT NOTHING NOTIFY NOWAIT NTH_VALUE NTILE NULL NULLABLE NULLIF NULLS " ++
      "NUMERIC NVARCHAR OBJECT OCTETS OF OFFSET OLD OMIT ON ONE ONLY OPEN OPENJSON OPERATOR OPTIMIZE " ++
      "OPTION OPTIONS OR ORC ORDER ORDINALITY OUT OUTER OUTPUTFORMAT OVER OVERFLOW OVERLAPS OVERLAY " ++
      "OVERRIDE OVERWRITE OWNED OWNER PARALLEL PARAMETER PARQUET PART PARTITION PARTITIONED PARTITIONS " ++
      "PASSWORD PAST PATH PATTERN PER PERCENT PERCENTILE_CONT PERCENTILE_DISC PERCENT_RANK PERIOD " ++
      "PERMISSIVE PERSISTENT PIVOT PLACING PLANS POLICY PORTION POSITION POWER PRAGMA PRECEDES " ++
      "PRECEDING PRECISION PREPARE PRESERVE PREWHERE PRIMARY PRIOR PRIVILEGES PROCEDURE PROGRAM " ++
      "PROJECTION PUBLIC PURGE QUALIFY QUARTER QUERY QUOTE RANGE RANK RAW RCFILE READ READS REAL " ++
      "RECURSIVE REF REFERENCES REFERENCING REGCLASS REGEXP RELATIVE RELEASE REMOTE RENAME REORG REPAIR " ++
      "REPEATABLE REPLACE REPLICA REPLICATION RESET RESPECT RESTART RESTRICT RESTRICTED RESTRICTIVE " ++
      "RESULT RESULTSET RETAIN RETURN RETURNING RETURNS REVOKE RIGHT RLIKE ROLE ROLES ROLLBACK ROLLUP " ++
      "ROOT ROW ROWID ROWS ROW_FORMAT ROW_NUMBER RULE RUN SAFE_CAST SAMPLE SAVEPOINT SCHEMA SCHEMAS " ++
      "SCOPE SCROLL SEARCH SECOND SECRET SECURITY SEED SELECT SEMI SENSITIVE SEPARATOR SEQUENCE " ++
      "SEQUENCEFILE SEQUENCES SERDE SERIALIZABLE SESSION SESSION_USER SET SETS SETTINGS SHARE SHOW " ++
      "SIMILAR SKIP SLOW SMALLINT SNAPSHOT SOME SORT SORTED SOURCE SPATIAL SPECIFIC SPECIFICTYPE SQL " ++
      "SQRT STABLE STAGE START STATEMENT STATIC STATISTICS STATUS STDIN STDOUT STEP STORED STRICT " ++
      "STRING STRUCT SUBMULTISET SUBSTRING SUCCEEDS SUM SUPER SUPERUSER SUPPORT SUSPEND SWAP SYMMETRIC " ++
      "SYNC SYSTEM SYSTEM_TIME SYSTEM_USER TABLE TABLES TABLESAMPLE TAG TARGET TBLPROPERTIES TEMP " ++
      "TEMPORARY TERMINATED TEXT TEXTFILE THEN TIES TIME TIMESTAMP TIMESTAMPTZ TIMETZ TIMEZONE " ++
      "TIMEZONE_ABBR TIMEZONE_HOUR TIMEZONE_MINUTE TIMEZONE_REGION TINYBLOB TINYINT TINYTEXT TO TOP " ++
      "TOTALS TRAILING TRANSACTION TRANSIENT TRANSLATE TREAT TRIGGER TRIM TRUE TRUNCATE TRY TRY_CAST " ++
      "TRY_CONVERT TUPLE TYPE UESCAPE UINT128 UINT16 UINT256 UINT32 UINT64 UINT8 UNBOUNDED UNCACHE " ++
      "UNCOMMITTED UNDEFINED UNFREEZE UNION UNIQUE UNKNOWN UNLISTEN UNLOAD UNLOCK UNLOGGED UNNEST " ++
      "UNPIVOT UNSAFE UNSIGNED UNTIL UPDATE UPPER URL USAGE USE USER USING UUID VACUUM VALID VALUE " ++
      "VALUES VARBINARY VARCHAR VARIABLES VARYING VERBOSE VERSION VERSIONING VIEW VIEWS VIRTUAL " ++
      "VOLATILE WAREHOUSE WEEK WEEKS WHEN WHENEVER WHERE WINDOW WITH WITHIN WITHOUT " ++
      "WITHOUT_ARRAY_WRAPPER WORK WRITE XML XOR YEAR YEARS ZONE ZORDER")

/-- The keywords that do not begin the alias of a selected expression. -/
def endOfItem : List String :=
  words
    ("WITH EXPLAIN ANALYZE SELECT WHERE GROUP SORT HAVING ORDER TOP LATERAL VIEW LIMIT OFFSET FETCH " ++
      "UNION EXCEPT INTERSECT CLUSTER DISTRIBUTE RETURNING FROM INTO END")

/-- The keywords that do not begin the alias of a table. -/
def endOfTable : List String :=
  words
    ("WITH EXPLAIN ANALYZE SELECT WHERE GROUP SORT HAVING ORDER PIVOT UNPIVOT TOP LATERAL VIEW LIMIT " ++
      "OFFSET FETCH UNION EXCEPT INTERSECT ON JOIN INNER CROSS FULL LEFT RIGHT NATURAL USING CLUSTER " ++
      "DISTRIBUTE GLOBAL ANTI SEMI RETURNING ASOF MATCH_CONDITION OUTER SET QUALIFY WINDOW END FOR " ++
      "PARTITION PREWHERE SETTINGS FORMAT START CONNECT MATCH_RECOGNIZE SAMPLE TABLESAMPLE")

/-- The units of time. -/
def timeUnits : List String :=
  words
    ("YEAR YEARS MONTH MONTHS WEEK WEEKS DAY DAYS HOUR HOURS MINUTE MINUTES SECOND SECONDS CENTURY " ++
      "DECADE DOW DOY EPOCH ISODOW ISOWEEK ISOYEAR JULIAN MICROSECOND MICROSECONDS MILLENIUM " ++
      "MILLENNIUM MILLISECOND MILLISECONDS NANOSECOND NANOSECONDS QUARTER DAYOFWEEK DAYOFYEAR DATE " ++
      "DATETIME TIME TIMEZONE TIMEZONE_ABBR TIMEZONE_HOUR TIMEZONE_MINUTE")

end JoinCanvas.Statement.Keyword
