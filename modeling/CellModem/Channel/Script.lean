import CellModem.Channel.Simulator

/-!
# The script of a working modem

A module that is switched on and registered. Commands it has no answer for are acknowledged.
-/

namespace CellModem.Simulator

def workingScript : List (String × List String) :=
  [("AT+WS46?", ["+WS46: 25"]),
    ("AT+CFUN?", ["+CFUN: 1"]),
    ("AT#SIMDET?", ["#SIMDET: 2"]),
    ("AT#GPIO?", ["#GPIO: 1,0", "#GPIO: 2,1"]),
    ("AT+CGDCONT?", ["+CGDCONT: 1,\"IP\",\"internet\""]),
    ("AT#CEER", ["#CEER: 0"]),
    ("AT#CEERNET", ["#CEERNET: 0"]),
    ("AT+COPS?", ["+COPS: 0,0,\"Operator\",7"]),
    ("AT#RFSTS", ["#RFSTS: \"262 01\",1300,-97,-68,-11.5,A1B2,FF,0,1280,19,2,0123ABC,"
      ++ "\"262011234567890\",\"Operator\",3,3"]),
    ("AT#ENS?", ["#ENS: 0"]),
    ("AT#AUTOBND?", ["#AUTOBND: 2"]),
    ("AT#BND?", ["#BND: 0,15,524420"]),
    ("AT+CREG?", ["+CREG: 2,1"]),
    ("AT+CGREG?", ["+CGREG: 2,1"]),
    ("AT+CGEREP?", ["+CGEREP: 1,0"]),
    ("AT#PSNT?", ["#PSNT: 1,4"]),
    ("AT+CMER?", ["+CMER: 3,0,0,2,0"]),
    ("AT#QSS?", ["#QSS: 2,1"]),
    ("AT#FWSWITCH?", ["#FWSWITCH: 1"]),
    ("AT+TRACE?", ["+TRACE: 0"]),
    ("AT+XTRACECONFIG?", ["+XTRACECONFIG: 0,4,\"bb_sw=1\""]),
    ("AT+XSYSTRACE=1,,\"bb_sw=#\"", ["Trace flags:", "tr:0"]),
    ("AT#RTDE?", ["#RTDE: 0x0000"]),
    ("AT#PORTCFG?", ["#PORTCFG: 8,8"]),
    ("AT#CSURV",
      ["Network survey started ...",
        "earfcn: 1300 rxLev: -68 mcc: 262 mnc: 01 cellId: 1a2b tac: a1b2",
        "earfcn: 6300 rxLev: -91 mcc: 262 mnc: 02 cellId: 2c3d tac: 0041",
        "Network survey ended"])]

def working {κ : Type} : Simulator κ :=
  workingScript.foldl (fun s (command, lines) => s.respond command (.success lines))
    { empty with unscripted := .ok }

end CellModem.Simulator
