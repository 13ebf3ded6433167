/-!
What a driver says when it refuses a statement or a connection. A refusal without a text has the
general one, and those of the client itself, which have the codes from 2000 on, each have their own.
-/

namespace RowQuery.DriverError

/-- The texts of the client's own errors, in the order of their codes. What an error is about is
left open in them. -/
def clientTexts : List String :=
  ["Unknown MySQL error",
    "Can't create UNIX socket (%s)",
    "Can't connect to local MySQL server through socket '%-.100s' (%s)",
    "Can't connect to MySQL server on '%-.100s:%u' (%s)",
    "Can't create TCP/IP socket (%s)",
    "Unknown MySQL server host '%-.100s' (%s)",
    "MySQL server has gone away",
    "Protocol mismatch; server version = %s, client version = %s",
    "MySQL client ran out of memory",
    "Wrong host info",
    "Localhost via UNIX socket",
    "%-.100s via TCP/IP",
    "Error in server handshake",
    "Lost connection to MySQL server during query",
    "Commands out of sync; you can't run this command now",
    "Named pipe: %-.32s",
    "Can't wait for named pipe to host: %-.64s  pipe: %-.32s (%s)",
    "Can't open named pipe to host: %-.64s  pipe: %-.32s (%s)",
    "Can't set state of named pipe to host: %-.64s  pipe: %-.32s (%s)",
    "Can't initialize character set %-.32s (path: %-.100s)",
    "Got packet bigger than 'max_allowed_packet' bytes",
    "Embedded server",
    "Error on SHOW SLAVE STATUS:",
    "Error on SHOW SLAVE HOSTS:",
    "Error connecting to slave:",
    "Error connecting to master:",
    "SSL connection error: %-.100s",
    "Malformed packet",
    "This client library is licensed only for use with MySQL servers having '%s' license",
    "Invalid use of null pointer",
    "Statement not prepared",
    "No data supplied for parameters in prepared statement",
    "Data truncated",
    "No parameters exist in the statement",
    "Invalid parameter number",
    "Can't send long data for non-string/non-binary data types (parameter: %s)",
    "Using unsupported buffer type: %s  (parameter: %s)",
    "Shared memory: %-.100s",
    "Can't open shared memory; client could not create request event (%s)",
    "Can't open shared memory; no answer event received from server (%s)",
    "Can't open shared memory; server could not allocate file mapping (%s)",
    "Can't open shared memory; server could not get pointer to file mapping (%s)",
    "Can't open shared memory; client could not allocate file mapping (%s)",
    "Can't open shared memory; client could not get pointer to file mapping (%s)",
    "Can't open shared memory; client could not create %s event (%s)",
    "Can't open shared memory; no answer from server (%s)",
    "Can't open shared memory; cannot send request event to server (%s)",
    "Wrong or unknown protocol",
    "Invalid connection handle",
    "Connection using old (pre-4.1.1) authentication protocol refused (client option " ++
      "'secure_auth' enabled)",
    "Row retrieval was canceled by mysql_stmt_close() call",
    "Attempt to read column without prior row fetch",
    "Prepared statement contains no metadata",
    "Attempt to read a row while there is no result set associated with the statement",
    "This feature is not implemented yet",
    "Lost connection to MySQL server at '%s', system error: %s",
    "Statement closed indirectly because of a preceding %s() call",
    "The number of columns in the result set differs from the number of bound buffers. " ++
      "You must reset the statement, rebind the result set columns, and execute the " ++
      "statement again",
    "This handle is already connected. Use a separate handle for each connection.",
    "Authentication plugin '%s' cannot be loaded: %s",
    "There is an attribute with the same name already",
    "Authentication plugin '%s' reported error: %s",
    "Insecure API function call: '%s' Use instead: '%s'"]

/-- The code of the first of the client's own errors. -/
def firstClientCode : Int := 2000

/-- The text for a refusal that comes without one. Codes between the client's errors and the next
thousand are not in use, and have none. -/
def defaultText? (code : Int) : Option String :=
  if firstClientCode ≤ code ∧ code < firstClientCode + 1000 then
    clientTexts[(code - firstClientCode).toNat]?
  else some "Unknown error"

/-- The text of a refusal, with the one for its code in the place of an empty one. -/
def text? (code : Int) (text : String) : Option String :=
  if text.isEmpty then defaultText? code else some text

end RowQuery.DriverError
