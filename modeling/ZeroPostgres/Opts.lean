import ZeroPostgres.Error

/-!
# Options

`Opts`, `src/src/opts.rs:11–139`: the options the connection machine and the pools read. The
address and the transport are the stream's business.
-/

namespace ZeroPostgres

/-- SSL connection mode, `src/src/opts.rs:12–20`. -/
inductive SslMode where
  | disable | prefer | require
deriving DecidableEq, Repr

/-- Connection options, `src/src/opts.rs:24–89`. -/
structure Opts where
  user : String
  database : Option String
  password : Option String
  applicationName : Option String
  sslMode : SslMode
  params : List (String × String)
  poolMaxIdleConn : Nat
  poolMaxConcurrency : Option Nat
deriving DecidableEq, Repr

/-- `Opts::default`, `src/src/opts.rs:92–108`. -/
def Opts.default : Opts :=
  { user := "", database := none, password := none, applicationName := none
    sslMode := .prefer, params := [], poolMaxIdleConn := 100, poolMaxConcurrency := none }

end ZeroPostgres
