/-! # Reference texts

The descriptions of the command language and of the script language that players read. -/

namespace GridWalk.Command

/-- The reference of the command language. -/
def reference : String := "
Comandos disponibles:
- D[número]: Mover a la derecha (ej: D3)
- I[número]: Mover a la izquierda (ej: I2)
- S[número]: Mover hacia arriba (ej: S1)
- B[número]: Mover hacia abajo (ej: B4)
Cada instrucción avanza entre 1 y 15 casillas y se separa de la siguiente con una coma.

Bucles (nivel 10+):
- (comandos)x[repeticiones]: Repetir comandos (ej: (D1,S1)x3)
- Niveles 14-20: el bucle debe repetirse por lo menos 2 veces y el recorrido
  debe terminar exactamente en el portal.

Ejemplos:
- D3,S2,I1: Derecha 3, Subir 2, Izquierda 1
- (D2,S1)x5: Repetir \"Derecha 2, Subir 1\" cinco veces
"

/-- The reference of the script language. -/
def scriptReference : String :=
  "level NAME|NUMBER | seed N | time SECONDS | validate CMDS | run CMDS | show | " ++
    "trace on|off | restart | exit | help"

end GridWalk.Command
